import Arisa.Std.Decimal

/-!
# Socket addresses

`text.parse::<SocketAddr>()`: an address of version 4 and a port, or an address
of version 6 between brackets. The reader of what follows the opening bracket is
left as the parameter `Ipv6`.
-/

namespace Arisa.Std

structure SocketAddrV4 where
  octets : List Nat
  port : Nat
deriving DecidableEq

inductive SocketAddr (V6 : Type) where
  | v4 (address : SocketAddrV4)
  | v6 (address : V6)
deriving DecidableEq

/-- A reader returns what it has read and the rest of the text. -/
abbrev Reader (α : Type) := List Char → Option (α × List Char)

/-- `read_given_char`. -/
def readGivenChar (given : Char) : List Char → Option (List Char)
  | [] => none
  | char :: rest => if char = given then some rest else none

/-- `read_number` in base 10, for a type of the values below `bound`. -/
def readNumber (bound : Nat) (maxDigits : Option Nat) (allowZeroPrefix : Bool) : Reader Nat :=
  fun text =>
    let digits := text.takeWhile Char.isDigit
    if digits.isEmpty ∨ maxDigits.any (· < digits.length) then none
    else if ¬ allowZeroPrefix ∧ digits.head? = some '0' ∧ 1 < digits.length then none
    else if bound ≤ decimal digits then none
    else some (decimal digits, text.dropWhile Char.isDigit)

/-- An octet: at most three digits, none of them a leading zero. -/
def readOctet : Reader Nat :=
  readNumber 256 (some 3) false

/-- `read_separator` for every group: a dot stands before each but the first. -/
def readGroups : Nat → Nat → Reader (List Nat)
  | 0, _, text => some ([], text)
  | count + 1, index, text => do
      let text ← if 0 < index then readGivenChar '.' text else some text
      let (octet, text) ← readOctet text
      let (octets, text) ← readGroups count (index + 1) text
      return (octet :: octets, text)

def readIpv4Addr : Reader (List Nat) :=
  readGroups 4 0

def readPort : Reader Nat := fun text => do
  let text ← readGivenChar ':' text
  readNumber 65536 none true text

def readSocketAddrV4 : Reader SocketAddrV4 := fun text => do
  let (octets, text) ← readIpv4Addr text
  let (port, text) ← readPort text
  return (⟨octets, port⟩, text)

def readSocketAddr {V6 : Type} (ipv6 : Reader V6) : Reader (SocketAddr V6) := fun text =>
  match readSocketAddrV4 text with
  | some (address, rest) => some (.v4 address, rest)
  | none => do
      let text ← readGivenChar '[' text
      let (address, rest) ← ipv6 text
      return (.v6 address, rest)

/-- The whole text has to be read. -/
def parseSocketAddr {V6 : Type} (ipv6 : Reader V6) (text : List Char) : Option (SocketAddr V6) := do
  let (address, rest) ← readSocketAddr ipv6 text
  if rest.isEmpty then some address else none

/-- A number is written without a leading zero. -/
def NoLeadingZero (digits : List Char) : Prop :=
  digits.head? = some '0' → digits.length = 1

instance (digits : List Char) : Decidable (NoLeadingZero digits) :=
  inferInstanceAs (Decidable (_ → _))

/-- What follows a number does not continue it. -/
def Stops (rest : List Char) : Prop :=
  ∀ char ∈ rest.head?, ¬ char.isDigit

/-- A number is what stands before the first character that is no digit. -/
theorem takeWhile_digits {digits rest : List Char} (number : IsDecimal digits)
    (stops : Stops rest) : (digits ++ rest).takeWhile Char.isDigit = digits := by
  rw [List.takeWhile_append_of_pos number.digits]
  cases rest with
  | nil => simp
  | cons char rest => simp [stops char rfl]

/-- What stands behind a number begins with that character. -/
theorem dropWhile_digits {digits rest : List Char} (number : IsDecimal digits)
    (stops : Stops rest) : (digits ++ rest).dropWhile Char.isDigit = rest := by
  rw [List.dropWhile_append_of_pos number.digits]
  cases rest with
  | nil => rfl
  | cons char rest => simp [stops char rfl]

/-- A number has a digit. -/
theorem IsDecimal.not_isEmpty {digits : List Char} (number : IsDecimal digits) :
    digits.isEmpty = false := by
  rw [List.isEmpty_eq_false_iff]
  exact number.nonempty

/-- What `read_number` accepts as an octet. -/
def IsOctet (digits : List Char) : Prop :=
  decimal digits ≤ 255 ∧ NoLeadingZero digits

instance (digits : List Char) : Decidable (IsOctet digits) :=
  inferInstanceAs (Decidable (_ ∧ _))

/-- A run of at most three digits is an octet exactly when it is below 256 and has no
leading zero. -/
theorem readOctet_eq {digits rest : List Char} (number : IsDecimal digits)
    (short : digits.length ≤ 3) (stops : Stops rest) :
    readOctet (digits ++ rest) =
      if IsOctet digits then some (decimal digits, rest) else none := by
  have filled : 0 < digits.length := List.length_pos_iff.mpr number.nonempty
  have counted : ¬ (digits.isEmpty ∨ (some 3).any fun most => most < digits.length) := by
    rw [number.not_isEmpty]
    simpa using short
  simp only [readOctet, readNumber, takeWhile_digits number stops, dropWhile_digits number stops]
  rw [if_neg counted]
  by_cases zero : digits.head? = some '0' ∧ 1 < digits.length
  · have leading : ¬ NoLeadingZero digits := by
      intro single
      have one := single zero.1
      omega
    rw [if_pos ⟨Bool.false_ne_true, zero⟩, if_neg fun octet => leading octet.2]
  · have single : NoLeadingZero digits := by
      intro first
      have few : ¬ 1 < digits.length := fun many => zero ⟨first, many⟩
      omega
    rw [if_neg fun refused => zero refused.2]
    by_cases large : 256 ≤ decimal digits
    · rw [if_pos large, if_neg fun octet => by have := octet.1; omega]
    · rw [if_neg large, if_pos ⟨by omega, single⟩]

/-- A port is read up to 65535. -/
theorem readPort_eq {digits : List Char} (number : IsDecimal digits) :
    readPort (':' :: digits) =
      if decimal digits ≤ 65535 then some (decimal digits, []) else none := by
  have ends : Stops [] := by simp [Stops]
  have taken := takeWhile_digits number ends
  have dropped := dropWhile_digits number ends
  rw [List.append_nil] at taken dropped
  have counted : ¬ (digits.isEmpty ∨ (none : Option Nat).any fun most => most < digits.length) := by
    rw [number.not_isEmpty]
    simp
  simp only [readPort, readGivenChar, readNumber, Option.bind_eq_bind, if_true, Option.bind_some,
    taken, dropped]
  rw [if_neg counted, if_neg fun refused => refused.1 trivial]
  by_cases large : 65536 ≤ decimal digits
  · rw [if_pos large, if_neg (by omega)]
  · rw [if_neg large, if_pos (by omega)]

/-- One group and the groups behind it. -/
theorem readOctet_then {octet tail : List Char} {count index : Nat} (number : IsDecimal octet)
    (short : octet.length ≤ 3) (stops : Stops tail) :
    ((readOctet (octet ++ tail)).bind fun (value, text) =>
      (readGroups count index text).bind fun (values, text) => some (value :: values, text)) =
      if IsOctet octet then
        (readGroups count index tail).map fun (values, text) => (decimal octet :: values, text)
      else none := by
  rw [readOctet_eq number short stops]
  by_cases accepted : IsOctet octet
  · rw [if_pos accepted, if_pos accepted, Option.bind_some]
    cases groups : readGroups count index tail with
    | none => simp [groups]
    | some read => simp [groups]
  · rw [if_neg accepted, if_neg accepted, Option.bind_none]

/-- The dots of the groups that follow end the digits of the group before them. -/
theorem stops_groups {others : List (List Char)} {rest : List Char} (stops : Stops rest) :
    Stops (others.flatMap ('.' :: ·) ++ rest) := by
  cases others with
  | nil => exact stops
  | cons other others => simp [Stops]

/-- Digit runs after the first group, each behind its dot. -/
theorem readGroups_eq {octets : List (List Char)} {rest : List Char}
    (numbers : ∀ octet ∈ octets, IsDecimal octet ∧ octet.length ≤ 3) (stops : Stops rest)
    (index : Nat) :
    readGroups octets.length (index + 1) (octets.flatMap ('.' :: ·) ++ rest) =
      if ∀ octet ∈ octets, IsOctet octet then some (octets.map decimal, rest) else none := by
  induction octets generalizing index with
  | nil => rfl
  | cons octet others ih =>
      obtain ⟨⟨number, short⟩, tail⟩ := List.forall_mem_cons.mp numbers
      have text : (octet :: others).flatMap ('.' :: ·) ++ rest =
          '.' :: (octet ++ (others.flatMap ('.' :: ·) ++ rest)) := by
        simp
      rw [text]
      refine (readOctet_then number short (stops_groups stops)).trans ?_
      simp only [ih tail, List.forall_mem_cons]
      by_cases accepted : IsOctet octet
      · by_cases each : ∀ octet ∈ others, IsOctet octet
        · simp [accepted, if_pos each]
        · simp [accepted, if_neg each]
      · simp [accepted]

/-- Four digit runs with dots between them. -/
theorem readIpv4Addr_eq {first : List Char} {others : List (List Char)} {rest : List Char}
    (four : (first :: others).length = 4)
    (numbers : ∀ octet ∈ first :: others, IsDecimal octet ∧ octet.length ≤ 3)
    (stops : Stops rest) :
    readIpv4Addr (first ++ (others.flatMap ('.' :: ·) ++ rest)) =
      if ∀ octet ∈ first :: others, IsOctet octet then
        some ((first :: others).map decimal, rest)
      else none := by
  obtain ⟨⟨number, short⟩, tail⟩ := List.forall_mem_cons.mp numbers
  have three : others.length = 3 := Nat.succ.inj four
  have groups := readGroups_eq tail stops 0
  rw [three] at groups
  refine (readOctet_then number short (stops_groups stops)).trans ?_
  simp only [groups, List.forall_mem_cons]
  by_cases accepted : IsOctet first
  · by_cases each : ∀ octet ∈ others, IsOctet octet
    · simp [accepted, if_pos each]
    · simp [accepted, if_neg each]
  · simp [accepted]

/-- Four dotted digit runs and a decimal port are the address that they spell when the runs are
octets and the port is below 65536, and none otherwise. -/
theorem parseSocketAddr_eq {V6 : Type} (ipv6 : Reader V6) {first port : List Char}
    {others : List (List Char)} (four : (first :: others).length = 4)
    (numbers : ∀ octet ∈ first :: others, IsDecimal octet ∧ octet.length ≤ 3)
    (portNumber : IsDecimal port) :
    parseSocketAddr ipv6 (first ++ (others.flatMap ('.' :: ·) ++ ':' :: port)) =
      if (∀ octet ∈ first :: others, IsOctet octet) ∧ decimal port ≤ 65535 then
        some (.v4 ⟨(first :: others).map decimal, decimal port⟩)
      else none := by
  have colon : Stops (':' :: port) := by simp [Stops]
  obtain ⟨char, tail, same, -, -⟩ := (numbers first (List.mem_cons_self ..)).1.head
  have digit := (numbers first (List.mem_cons_self ..)).1.digits char (same ▸ List.mem_cons_self ..)
  have bracket :
      readGivenChar '[' (first ++ (others.flatMap ('.' :: ·) ++ ':' :: port)) = none := by
    rw [same, List.cons_append, readGivenChar, if_neg]
    rintro rfl
    simp at digit
  have v4 : readSocketAddrV4 (first ++ (others.flatMap ('.' :: ·) ++ ':' :: port)) =
      if (∀ octet ∈ first :: others, IsOctet octet) ∧ decimal port ≤ 65535 then
        some (⟨(first :: others).map decimal, decimal port⟩, [])
      else none := by
    simp only [readSocketAddrV4, readIpv4Addr_eq four numbers colon]
    by_cases octets : ∀ octet ∈ first :: others, IsOctet octet
    · rw [if_pos octets]
      by_cases small : decimal port ≤ 65535
      · rw [if_pos ⟨octets, small⟩]
        simp [readPort_eq portNumber, small]
      · rw [if_neg fun both => small both.2]
        simp [readPort_eq portNumber, small]
    · rw [if_neg octets, if_neg fun both => octets both.1]
      rfl
  by_cases accepted : (∀ octet ∈ first :: others, IsOctet octet) ∧ decimal port ≤ 65535
  · rw [if_pos accepted] at v4
    simp only [parseSocketAddr, readSocketAddr, v4, if_pos accepted]
    rfl
  · rw [if_neg accepted] at v4
    simp only [parseSocketAddr, readSocketAddr, v4, bracket, if_neg accepted]
    rfl

/-- Four short numbers and a port are an address exactly if each is in its range and without a
leading zero. -/
theorem parseSocketAddr_isSome {V6 : Type} (ipv6 : Reader V6) {first port : List Char}
    {others : List (List Char)} (four : (first :: others).length = 4)
    (numbers : ∀ octet ∈ first :: others, IsDecimal octet ∧ octet.length ≤ 3)
    (portNumber : IsDecimal port) :
    (parseSocketAddr ipv6 (first ++ (others.flatMap ('.' :: ·) ++ ':' :: port))).isSome ↔
      (∀ octet ∈ first :: others, IsOctet octet) ∧ decimal port ≤ 65535 := by
  rw [parseSocketAddr_eq ipv6 four numbers portNumber]
  split
  · next accepted => exact iff_of_true rfl accepted
  · next refused => exact iff_of_false Bool.false_ne_true refused

end Arisa.Std
