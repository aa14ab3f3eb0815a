import Arisa.Std.Text

/-!
# Decimal texts

What the integer parsers of the Rust standard library make of a run of decimal
digits, with or without a sign in front, and of the integers it prints.
-/

namespace Arisa.Std

/-- A non-empty run of decimal digits. -/
structure IsDecimal (text : List Char) : Prop where
  nonempty : text ≠ []
  digits : ∀ char ∈ text, char.isDigit

/-- The number that a run of decimal digits denotes. -/
def decimal (digits : List Char) : Nat :=
  digits.foldl (fun value digit => value * 10 + (digit.toNat - '0'.toNat)) 0

/-- The number that decimal digits denote, with a minus sign in front of them or not. -/
def signedDecimal (text : List Char) : Int :=
  match text with
  | '-' :: digits => -(decimal digits : Int)
  | digits => decimal digits

/-- No digit is white space. -/
theorem not_isWhitespace_of_isDigit {char : Char} (digit : char.isDigit) :
    isWhitespace char = false := by
  simp only [Char.isDigit, Bool.and_eq_true, decide_eq_true_eq, UInt32.le_iff_toNat_le] at digit
  have low : 48 ≤ char.toNat := digit.1
  have high : char.toNat ≤ 57 := digit.2
  simp only [isWhitespace, Bool.or_eq_false_iff, Bool.and_eq_false_iff, decide_eq_false_iff_not,
    beq_eq_false_iff_ne]
  omega

/-- Trimming leaves a text alone that has no white space. -/
theorem trim_eq_self {text : List Char} (solid : ∀ char ∈ text, isWhitespace char = false) :
    trim text = text := by
  have kept (chars : List Char) (solid : ∀ char ∈ chars, isWhitespace char = false) :
      chars.dropWhile isWhitespace = chars := by
    cases chars with
    | nil => rfl
    | cons char rest => rw [List.dropWhile_cons, solid char (List.mem_cons_self ..)]; rfl
  rw [trim, kept text solid, kept text.reverse, List.reverse_reverse]
  intro char member
  exact solid char (List.mem_reverse.mp member)

/-- A text that passes the tests of a run of digits is one. -/
theorem isDecimal_of_all {text : List Char} (filled : text ≠ [])
    (digits : text.all Char.isDigit = true) : IsDecimal text :=
  ⟨filled, List.all_eq_true.mp digits⟩

/-- So there is nothing in a number for `trim` to take off. -/
theorem IsDecimal.solid {digits : List Char} (number : IsDecimal digits) :
    ∀ char ∈ digits, isWhitespace char = false :=
  fun char member => not_isWhitespace_of_isDigit (number.digits char member)

/-- A run of digits parses to what it denotes. -/
theorem parseDigits_decimal {text : List Char} (number : IsDecimal text) :
    parseDigits text = some (decimal text) := by
  have empty : ¬ (text.isEmpty ∨ ¬ text.all Char.isDigit) := by
    rw [not_or, Decidable.not_not, List.isEmpty_iff, List.all_eq_true]
    exact ⟨number.nonempty, number.digits⟩
  rw [parseDigits, if_neg empty, decimal]

/-- A sign is no digit. -/
theorem parseDigits_sign (rest : List Char) : parseDigits ('-' :: rest) = none := by
  rw [parseDigits, if_pos]
  right
  simp

/-- A run of digits starts with no sign. -/
theorem IsDecimal.head {text : List Char} (number : IsDecimal text) :
    ∃ char rest, text = char :: rest ∧ char ≠ '-' ∧ char ≠ '+' := by
  cases text with
  | nil => exact absurd rfl number.nonempty
  | cons char rest =>
      have digit := number.digits char (List.mem_cons_self ..)
      refine ⟨char, rest, rfl, ?_, ?_⟩
      all_goals
        rintro rfl
        simp at digit

/-- Without a sign a number is taken below the bound. -/
theorem parseSigned_decimal {text : List Char} (number : IsDecimal text) (bound : Nat) :
    parseSigned bound text = if decimal text < bound then some (decimal text : Int) else none := by
  obtain ⟨char, rest, rfl, minus, plus⟩ := number.head
  unfold parseSigned
  split
  · rename_i same
    cases same
    exact absurd rfl minus
  · rename_i same
    cases same
    exact absurd rfl plus
  · rw [parseDigits_decimal number]
    rfl

/-- With a minus sign a number is taken up to the bound itself. -/
theorem parseSigned_minus {digits : List Char} (number : IsDecimal digits) (bound : Nat) :
    parseSigned bound ('-' :: digits) =
      if decimal digits ≤ bound then some (-(decimal digits : Int)) else none := by
  simp only [parseSigned]
  rw [parseDigits_decimal number]
  rfl

/-- So an `i32` takes what denotes less than 2³¹. -/
theorem parseI32_isSome {text : List Char} (number : IsDecimal text) :
    (parseI32 text).isSome ↔ decimal text < 2 ^ 31 := by
  rw [parseI32, Option.isSome_map, parseSigned_decimal number]
  split <;> simp_all

/-- A number that is read is the one that the digits spell. -/
theorem toInt_of_parseI32 {text : List Char} {value : Int32} (number : IsDecimal text)
    (parsed : parseI32 text = some value) : value.toInt = decimal text := by
  rw [parseI32, parseSigned_decimal number] at parsed
  split at parsed
  · rename_i small
    cases parsed
    exact Int32.toInt_ofInt_of_le (by omega) (by omega)
  · cases parsed

/-- What a `u64` takes keeps its value. -/
theorem toNat_of_parseU64 {text : List Char} {value : UInt64} (number : IsDecimal text)
    (parsed : parseU64 text = some value) : value.toNat = decimal text := by
  obtain ⟨char, rest, rfl, -, plus⟩ := number.head
  unfold parseU64 at parsed
  split at parsed
  · rename_i same
    cases same
    exact absurd rfl plus
  · simp only [parseDigits_decimal number, Option.bind_some] at parsed
    split at parsed
    · rename_i small
      cases parsed
      exact UInt64.toNat_ofNat_of_lt small
    · cases parsed

/-- A `u64` takes what denotes less than 2⁶⁴. -/
theorem parseU64_isSome {text : List Char} (number : IsDecimal text) :
    (parseU64 text).isSome ↔ decimal text < 2 ^ 64 := by
  obtain ⟨char, rest, rfl, -, plus⟩ := number.head
  unfold parseU64
  split
  · rename_i same
    cases same
    exact absurd rfl plus
  · simp only [parseDigits_decimal number, Option.bind_some]
    split <;> simp_all

/-- An unsigned type has no negative numbers. -/
theorem parseU64_minus (digits : List Char) : parseU64 ('-' :: digits) = none := by
  unfold parseU64
  simp [parseDigits_sign]

/-- Without a sign the two readings agree. -/
theorem signedDecimal_decimal {text : List Char} (number : IsDecimal text) :
    signedDecimal text = decimal text := by
  obtain ⟨char, rest, rfl, minus, -⟩ := number.head
  unfold signedDecimal
  split
  · rename_i same
    cases same
    exact absurd rfl minus
  · rfl

/-! ## Signed numbers -/

/-- A run of decimal digits, or one with a minus sign in front of it. -/
inductive IsSignedDecimal : List Char → Prop where
  | plain {digits : List Char} (number : IsDecimal digits) : IsSignedDecimal digits
  | minus {digits : List Char} (number : IsDecimal digits) : IsSignedDecimal ('-' :: digits)

/-- The text writes the number in decimal. -/
structure WritesI64 (text : List Char) (value : Int64) : Prop where
  form : IsSignedDecimal text
  denotes : signedDecimal text = value.toInt

/-- A sign is no white space either. -/
theorem IsSignedDecimal.solid {text : List Char} (number : IsSignedDecimal text) :
    ∀ char ∈ text, isWhitespace char = false := by
  cases number with
  | plain number => exact number.solid
  | minus number => exact List.forall_mem_cons.mpr ⟨by decide, number.solid⟩

/-- A sign never stands alone. -/
theorem IsSignedDecimal.nonempty {text : List Char} (number : IsSignedDecimal text) :
    text ≠ [] := by
  cases number with
  | plain number => exact number.nonempty
  | minus _ => exact List.cons_ne_nil _ _

/-- No number breaks at a comma. -/
theorem IsSignedDecimal.not_mem_comma {text : List Char} (number : IsSignedDecimal text) :
    ',' ∉ text := by
  have plain {digits : List Char} (number : IsDecimal digits) : ',' ∉ digits := fun member =>
    absurd (number.digits ',' member) (by decide)
  cases number with
  | plain number => exact plain number
  | minus number =>
      rw [List.mem_cons, not_or]
      exact ⟨by decide, plain number⟩

/-- An `i64` is the instance of the signed parser with the bound 2⁶³. -/
theorem parseI64_eq_parseSigned (text : List Char) :
    parseI64 text = (parseSigned (2 ^ 63) text).map Int64.ofInt := by
  have mapped (digits : List Char) (fits : Nat → Prop) [DecidablePred fits] (sign : Nat → Int) :
      ((parseDigits digits).bind fun value =>
          if fits value then some (Int64.ofInt (sign value)) else none) =
        (((parseDigits digits).bind fun value =>
          if fits value then some (sign value) else none).map Int64.ofInt) := by
    cases parseDigits digits with
    | none => rfl
    | some value =>
        simp only [Option.bind_some]
        split <;> rfl
  unfold parseI64 parseSigned
  split
  · exact mapped _ (· ≤ 2 ^ 63) (fun value => -(value : Int))
  · exact mapped _ (· < 2 ^ 63) (fun value => (value : Int))
  · exact mapped _ (· < 2 ^ 63) (fun value => (value : Int))

/-- Reading a number that was written in decimal gives it back. -/
theorem WritesI64.parse {text : List Char} {value : Int64} (writes : WritesI64 text value) :
    parseI64 text = some value := by
  obtain ⟨form, denotes⟩ := writes
  have upper := value.toInt_lt
  have lower := value.le_toInt
  rw [parseI64_eq_parseSigned]
  cases form with
  | plain number =>
      rw [signedDecimal_decimal number] at denotes
      rw [parseSigned_decimal number, if_pos (by omega), Option.map_some, denotes,
        Int64.ofInt_toInt]
  | @minus digits number =>
      have negated : -(decimal digits : Int) = value.toInt := denotes
      rw [parseSigned_minus number, if_pos (by omega), Option.map_some, negated,
        Int64.ofInt_toInt]

/-- A printed number is a run of digits. -/
theorem isDecimal_toDigits (number : Nat) : IsDecimal (Nat.toDigits 10 number) where
  nonempty := Nat.toDigits_ne_nil
  digits _ := Nat.isDigit_of_mem_toDigits (by omega) (by omega)

/-- The digits of a printed number denote it. -/
theorem decimal_toDigits (number : Nat) : decimal (Nat.toDigits 10 number) = number := by
  have read := @Nat.ofDigitChars_ten_toDigits number
  rw [Nat.ofDigitChars_eq_foldl] at read
  simpa only [decimal, Nat.mul_comm] using read

/-- `value.to_string()` writes the value. -/
theorem writesI64_toString (value : Int64) : WritesI64 (toString value.toInt).toList value := by
  have printed : (toString value.toInt).toList =
      if value.toInt < 0 then '-' :: Nat.toDigits 10 value.toInt.natAbs
      else Nat.toDigits 10 value.toInt.natAbs := by
    generalize value.toInt = number
    cases number with
    | ofNat number =>
        rw [if_neg (by simp)]
        exact Nat.toList_repr
    | negSucc number =>
        have sign : toString (Int.negSucc number) = "-" ++ toString (number + 1) := rfl
        rw [if_pos (Int.negSucc_lt_zero number), sign, String.toList_append,
          Nat.toString_eq_repr, Nat.toList_repr]
        rfl
  rw [printed]
  split
  · rename_i negative
    refine ⟨.minus (isDecimal_toDigits _), ?_⟩
    change -(decimal (Nat.toDigits 10 value.toInt.natAbs) : Int) = _
    rw [decimal_toDigits]
    omega
  · refine ⟨.plain (isDecimal_toDigits _), ?_⟩
    rw [signedDecimal_decimal (isDecimal_toDigits _), decimal_toDigits]
    omega

end Arisa.Std
