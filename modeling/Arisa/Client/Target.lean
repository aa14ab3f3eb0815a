import Arisa.Client.Media
import Arisa.Std.SocketAddrV6
import Mathlib.Data.List.Basic

/-!
# The target of a bot

`_split_target` of `client.py`. The server has the Rust standard library parse the text of
its address; `splitTarget_of_address` says what the client makes of the same text.
-/

namespace Arisa.Client

open Arisa.Std

/-- `text.rpartition(separator)`, unless the separator does not occur. -/
def rpartition (separator : Char) : List Char → Option (List Char × List Char)
  | [] => none
  | char :: rest =>
      match rpartition separator rest with
      | some (head, tail) => some (char :: head, tail)
      | none => if char = separator then some ([], rest) else none

def removePrefix (mark : Char) : List Char → List Char
  | [] => []
  | char :: rest => if char = mark then rest else char :: rest

def removeSuffix (mark : Char) (text : List Char) : List Char :=
  if text.getLast? = some mark then text.dropLast else text

def wrongTarget : PyException := .valueError "target must use the form 'host:port'"

/-- `int` of a text with more digits than Python converts by default. -/
def tooManyDigits (count : Nat) : PyException :=
  .valueError ("Exceeds the limit (4300 digits) for integer string conversion: value has " ++
    toString count ++ " digits; use sys.set_int_max_str_digits() to increase the limit")

section

variable (decimalValue : Char → Option Nat)

/-- `text.isdecimal()`, where `unicodedata.decimal` is `decimalValue`. -/
def isDecimalText (text : List Char) : Bool :=
  !text.isEmpty && text.all fun char => (decimalValue char).isSome

/-- `int` of a text that is decimal. -/
def intOf (text : List Char) : Except PyException Nat :=
  if 4300 < text.length then .error (tooManyDigits text.length)
  else .ok (text.foldl (fun value char => value * 10 + (decimalValue char).getD 0) 0)

/-- `_split_target`: the host without its brackets, and the port. -/
def splitTarget (target : List Char) : Except PyException (List Char × Nat) :=
  match rpartition ':' target with
  | none => .error wrongTarget
  | some (host, port) =>
      if host.isEmpty ∨ ¬ isDecimalText decimalValue port then .error wrongTarget
      else do
        let port ← intOf decimalValue port
        return (removeSuffix ']' (removePrefix '[' host), port)

end

/-! ### The parts of a target -/

/-- Without the separator there are no parts. -/
theorem rpartition_eq_none {separator : Char} {text : List Char} (absent : separator ∉ text) :
    rpartition separator text = none := by
  induction text with
  | nil => rfl
  | cons char rest ih =>
      rw [rpartition, ih (List.not_mem_of_not_mem_cons absent)]
      exact if_neg (List.ne_of_not_mem_cons absent).symm

/-- The text is split at the last separator. -/
theorem rpartition_append {separator : Char} {tail : List Char} (absent : separator ∉ tail)
    (head : List Char) : rpartition separator (head ++ separator :: tail) = some (head, tail) := by
  induction head with
  | nil =>
      rw [List.nil_append, rpartition, rpartition_eq_none absent]
      exact if_pos rfl
  | cons char rest ih => rw [List.cons_append, rpartition, ih]

/-- Without the mark nothing is removed in front. -/
theorem removePrefix_eq_self {mark : Char} {text : List Char} (absent : mark ∉ text) :
    removePrefix mark text = text := by
  cases text with
  | nil => rfl
  | cons char rest =>
      rw [removePrefix, if_neg]
      rintro rfl
      exact absent List.mem_cons_self

/-- Without the mark nothing is removed behind. -/
theorem removeSuffix_eq_self {mark : Char} {text : List Char} (absent : mark ∉ text) :
    removeSuffix mark text = text := by
  rw [removeSuffix, if_neg]
  intro last
  exact absent (List.mem_of_getLast? last)

/-- A mark at the end is removed once. -/
theorem removeSuffix_append (mark : Char) (text : List Char) :
    removeSuffix mark (text ++ [mark]) = text := by
  rw [removeSuffix, if_pos List.getLast?_concat, List.dropLast_concat]

section

variable {decimalValue : Char → Option Nat}

/-- ASCII digits are decimal to Python too. -/
theorem isDecimalText_of_isDecimal {digits : List Char}
    (ascii : ∀ char, char.isDigit = true → decimalValue char = some (char.toNat - '0'.toNat))
    (number : IsDecimal digits) : isDecimalText decimalValue digits = true := by
  rw [isDecimalText, number.not_isEmpty, Bool.not_false, Bool.true_and, List.all_eq_true]
  intro char member
  rw [ascii char (number.digits char member)]
  rfl

/-- ASCII digits denote the same number to Python and to Rust. -/
theorem intOf_decimal {digits : List Char}
    (ascii : ∀ char, char.isDigit = true → decimalValue char = some (char.toNat - '0'.toNat))
    (number : IsDecimal digits) : intOf decimalValue digits =
      if 4300 < digits.length then .error (tooManyDigits digits.length)
      else .ok (decimal digits) := by
  have same : digits.foldl (fun value char => value * 10 + (decimalValue char).getD 0) 0 =
      decimal digits := by
    refine List.foldl_ext _ _ 0 fun value char member => ?_
    rw [ascii char (number.digits char member), Option.getD_some]
  rw [intOf, same]

/-- What the client takes for the host and the port of a text that ends with a port. -/
theorem splitTarget_append {host digits : List Char}
    (ascii : ∀ char, char.isDigit = true → decimalValue char = some (char.toNat - '0'.toNat))
    (number : IsDecimal digits) (filled : host ≠ []) :
    splitTarget decimalValue (host ++ ':' :: digits) =
      if 4300 < digits.length then .error (tooManyDigits digits.length)
      else .ok (removeSuffix ']' (removePrefix '[' host), decimal digits) := by
  have absent : ':' ∉ digits := by
    intro member
    have digit := number.digits ':' member
    simp at digit
  have accepted : ¬ (host.isEmpty ∨ ¬ isDecimalText decimalValue digits) := by
    rw [isDecimalText_of_isDecimal ascii number]
    simpa using filled
  simp only [splitTarget, rpartition_append absent, if_neg accepted, intOf_decimal ascii number]
  split <;> rfl

/-- However the address of a server is written, the client takes the text of the host and the
port number out of it that the server has parsed there, unless the port has more digits than
Python converts. -/
theorem splitTarget_of_address {text : List Char} {address : SocketAddr SocketAddrV6}
    (ascii : ∀ char, char.isDigit = true → decimalValue char = some (char.toNat - '0'.toNat))
    (parsed : parseSocketAddr readSocketAddrV6 text = some address) :
    ∃ host digits, Spells text host digits address ∧
      splitTarget decimalValue text =
        if 4300 < digits.length then .error (tooManyDigits digits.length)
        else .ok (host, address.port) := by
  obtain ⟨host, digits, spells⟩ := spells_of_parseSocketAddr parsed
  refine ⟨host, digits, spells, ?_⟩
  cases spells with
  | v4 alone filled chars number =>
      have bare (mark : Char) (other : mark.isDigit = false) (dot : mark ≠ '.') :
          mark ∉ host := by
        intro member
        rcases chars mark member with digit | same
        · rw [other] at digit
          cases digit
        · exact dot same
      rw [splitTarget_append ascii number filled,
        removePrefix_eq_self (bare '[' rfl (by decide)),
        removeSuffix_eq_self (bare ']' rfl (by decide))]
      rfl
  | v6 hostRead number =>
      have shape : '[' :: (host ++ ']' :: ':' :: digits) =
          ('[' :: (host ++ [']'])) ++ ':' :: digits := by
        simp
      rw [shape, splitTarget_append ascii number (List.cons_ne_nil _ _), removePrefix,
        if_pos rfl, removeSuffix_append]
      rfl

end

/-- A bot whose target is the text of a server at an address with a scope. -/
theorem splitTarget_of_address_scoped : ∃ host digits,
    Spells "[fe80::1%7]:03000".toList host digits (.v6 ⟨[0xfe80, 0, 0, 0, 0, 0, 0, 1], 7, 3000⟩) ∧
      splitTarget (fun char => if char.isDigit then some (char.toNat - '0'.toNat) else none)
          "[fe80::1%7]:03000".toList =
        if 4300 < digits.length then .error (tooManyDigits digits.length)
        else .ok (host, 3000) :=
  splitTarget_of_address (fun _ digit => if_pos digit) (by decide +kernel)

end Arisa.Client
