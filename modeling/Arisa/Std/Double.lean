import Mathlib.Algebra.Group.Nat.Defs

/-!
# Doubles

The conversion of an integer to the bits of a double, rounded to the nearest one
and to an even significand on a tie.
-/

namespace Arisa.Std

/-- The value in units of `2 ^ shift`. -/
def roundHalfEven (value shift : Nat) : Nat :=
  let quotient := value / 2 ^ shift
  let remainder := value % 2 ^ shift
  if 2 ^ shift < 2 * remainder ∨ 2 ^ shift = 2 * remainder ∧ quotient % 2 = 1 then quotient + 1
  else quotient

/-- Rounding is off by at most half a unit. -/
theorem roundHalfEven_error (value shift : Nat) :
    2 * value ≤ 2 * (roundHalfEven value shift * 2 ^ shift) + 2 ^ shift ∧
      2 * (roundHalfEven value shift * 2 ^ shift) ≤ 2 * value + 2 ^ shift := by
  have divided := Nat.div_add_mod' value (2 ^ shift)
  have small := Nat.mod_lt value (Nat.two_pow_pos shift)
  unfold roundHalfEven
  dsimp only
  split
  · rw [Nat.add_mul]
    omega
  · omega

/-- `value as f64`, as bits. -/
def natToF64 (value : Nat) : UInt64 :=
  if value = 0 then 0
  else
    let exponent := value.log2
    let significand :=
      if exponent ≤ 52 then value * 2 ^ (52 - exponent) else roundHalfEven value (exponent - 52)
    UInt64.ofNat ((exponent + 1023) * 2 ^ 52 + (significand - 2 ^ 52))

/-- Beyond 2⁶³ eleven bits are rounded off, and 53 remain, or the next power of two. -/
theorem roundHalfEven_bounds {value : Nat} (large : 2 ^ 63 ≤ value) (small : value < 2 ^ 64) :
    2 ^ 52 ≤ roundHalfEven value 11 ∧ roundHalfEven value 11 ≤ 2 ^ 53 := by
  unfold roundHalfEven
  dsimp only
  split <;> omega

/-- So the exponent is the same for all of them, up to that carry. -/
theorem toNat_natToF64 {value : Nat} (large : 2 ^ 63 ≤ value) (small : value < 2 ^ 64) :
    (natToF64 value).toNat = 1086 * 2 ^ 52 + (roundHalfEven value 11 - 2 ^ 52) := by
  have exponent : value.log2 = 63 := (Nat.log2_eq_iff (by omega)).mpr ⟨large, small⟩
  have bounds := roundHalfEven_bounds large small
  have fits : 1086 * 2 ^ 52 + (roundHalfEven value 11 - 2 ^ 52) < UInt64.size := by
    dsimp only [UInt64.size]
    omega
  rw [natToF64, if_neg (by omega), exponent]
  exact UInt64.toNat_ofNat_of_lt' fits

example : natToF64 (2 ^ 64 - 1) = 0x43F0000000000000 := by decide

/-- `value as f64` of a signed integer, as bits. -/
def intToF64 (value : Int) : UInt64 :=
  if 0 ≤ value then natToF64 value.toNat else natToF64 value.natAbs ||| 0x8000000000000000

end Arisa.Std
