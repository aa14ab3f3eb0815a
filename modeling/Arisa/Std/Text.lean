import Mathlib.Algebra.Group.Nat.Defs

/-!
# Text functions of the Rust standard library
-/

namespace Arisa.Std

/-- `char::is_whitespace`: the Unicode property `White_Space`. -/
def isWhitespace (char : Char) : Bool :=
  let code := char.toNat
  (9 ≤ code && code ≤ 13) || code == 0x20 || code == 0x85 || code == 0xA0 || code == 0x1680 ||
    (0x2000 ≤ code && code ≤ 0x200A) || code == 0x2028 || code == 0x2029 || code == 0x202F ||
    code == 0x205F || code == 0x3000

/-- `text.trim().is_empty()`. -/
def isBlank (text : String) : Bool :=
  text.toList.all isWhitespace

/-- `text.trim()`. -/
def trim (text : List Char) : List Char :=
  ((text.dropWhile isWhitespace).reverse.dropWhile isWhitespace).reverse

/-- `text.split(separator)`: one piece more than there are separators. -/
def split (separator : Char) : List Char → List (List Char)
  | [] => [[]]
  | char :: rest =>
      if char = separator then
        [] :: split separator rest
      else
        match split separator rest with
        | [] => [[char]]
        | piece :: pieces => (char :: piece) :: pieces

/-- The value of a non-empty string of ASCII digits. -/
def parseDigits (text : List Char) : Option Nat :=
  if text.isEmpty ∨ ¬ text.all Char.isDigit then none
  else some (text.foldl (fun value digit => value * 10 + (digit.toNat - '0'.toNat)) 0)

/-- `text.parse::<i64>()`. -/
def parseI64 (text : List Char) : Option Int64 :=
  match text with
  | '-' :: digits =>
      (parseDigits digits).bind fun value =>
        if value ≤ 2 ^ 63 then some (Int64.ofInt (-value)) else none
  | '+' :: digits =>
      (parseDigits digits).bind fun value =>
        if value < 2 ^ 63 then some (Int64.ofInt value) else none
  | digits =>
      (parseDigits digits).bind fun value =>
        if value < 2 ^ 63 then some (Int64.ofInt value) else none

/-- `text.parse::<u32>()`. -/
def parseU32 (text : List Char) : Option UInt32 :=
  let digits :=
    match text with
    | '+' :: digits => digits
    | digits => digits
  (parseDigits digits).bind fun value =>
    if value < 2 ^ 32 then some (UInt32.ofNat value) else none

/-- An optional sign and digits, for a signed type with values below `bound`. -/
def parseSigned (bound : Nat) (text : List Char) : Option Int :=
  match text with
  | '-' :: digits =>
      (parseDigits digits).bind fun value =>
        if value ≤ bound then some (-(value : Int)) else none
  | '+' :: digits =>
      (parseDigits digits).bind fun value => if value < bound then some (value : Int) else none
  | digits =>
      (parseDigits digits).bind fun value => if value < bound then some (value : Int) else none

/-- `text.parse::<i32>()`. -/
def parseI32 (text : List Char) : Option Int32 :=
  (parseSigned (2 ^ 31) text).map Int32.ofInt

/-- `text.parse::<u64>()`. -/
def parseU64 (text : List Char) : Option UInt64 :=
  let digits :=
    match text with
    | '+' :: digits => digits
    | digits => digits
  (parseDigits digits).bind fun value =>
    if value < 2 ^ 64 then some (UInt64.ofNat value) else none

/-- `text.parse::<bool>()`. -/
def parseBool (text : List Char) : Option Bool :=
  if text = "true".toList then some true
  else if text = "false".toList then some false
  else none

/-- `text.split_once(separator)`: what stands before and after its first occurrence. -/
def splitOnce (separator : List Char) : List Char → Option (List Char × List Char)
  | [] => none
  | char :: rest =>
      if separator.isPrefixOf (char :: rest) then
        some ([], (char :: rest).drop separator.length)
      else
        (splitOnce separator rest).map fun (before, after) => (char :: before, after)

/-- `text.split(separator).next()`. -/
def firstPiece (separator text : List Char) : List Char :=
  match splitOnce separator text with
  | none => text
  | some (before, _) => before

/-- `text.split(separator).nth(1)`. -/
def secondPiece (separator text : List Char) : Option (List Char) :=
  (splitOnce separator text).map fun (_, after) => firstPiece separator after

end Arisa.Std
