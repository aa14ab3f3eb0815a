import Mathlib.Data.List.Induction
import Mathlib.Tactic.Ring

/-!
# Big-endian byte strings

A byte string denotes the natural number whose base-256 digits it lists, most
significant first. `ofNat` writes a number at a fixed width and drops what does
not fit, so a fixed-width addition is an addition of numbers followed by `ofNat`.
-/

namespace Arisa.Std

abbrev Bytes := List UInt8

namespace BigEndian

/-- The number a byte string denotes, most significant byte first. -/
def toNat (bytes : Bytes) : Nat :=
  bytes.foldl (fun value byte => value * 256 + byte.toNat) 0

/-- The `width` low-order bytes of a number, most significant byte first. -/
def ofNat : Nat → Nat → Bytes
  | 0, _ => []
  | width + 1, value => ofNat width (value / 256) ++ [UInt8.ofNat value]

/-- No byte denotes zero. -/
@[simp] theorem toNat_nil : toNat [] = 0 := rfl

/-- One more byte at the end is the lowest digit. -/
@[simp] theorem toNat_concat (bytes : Bytes) (byte : UInt8) :
    toNat (bytes ++ [byte]) = toNat bytes * 256 + byte.toNat := by
  simp [toNat, List.foldl_append]

/-- Written one byte wider, a number has its lowest digit at the end. -/
theorem ofNat_succ (width value : Nat) :
    ofNat (width + 1) value = ofNat width (value / 256) ++ [UInt8.ofNat value] := rfl

/-- The width is kept. -/
@[simp] theorem length_ofNat (width value : Nat) : (ofNat width value).length = width := by
  induction width generalizing value with
  | zero => rfl
  | succ width ih => simp [ofNat_succ, ih]

/-- Reading a number back keeps exactly its residue modulo `256 ^ width`. -/
theorem toNat_ofNat (width value : Nat) : toNat (ofNat width value) = value % 256 ^ width := by
  induction width generalizing value with
  | zero => simp [ofNat, Nat.mod_one]
  | succ width ih =>
      calc toNat (ofNat (width + 1) value)
          = value / 256 % 256 ^ width * 256 + value % 256 := by
            rw [ofNat_succ, toNat_concat, ih]
            simp
        _ = value % (256 * 256 ^ width) := by
            rw [Nat.mod_mul]
            ring
        _ = value % 256 ^ (width + 1) := by rw [Nat.pow_succ, Nat.mul_comm]

/-- The last digit of a number splits off; the rest is written one byte shorter. -/
theorem ofNat_digit (width high : Nat) (byte : UInt8) :
    ofNat (width + 1) (high * 256 + byte.toNat) = ofNat width high ++ [byte] := by
  have bound : byte.toNat < 256 := byte.toNat_lt
  have quotient : (high * 256 + byte.toNat) / 256 = high := by omega
  have digit : UInt8.ofNat (high * 256 + byte.toNat) = byte := by
    apply UInt8.toNat_inj.mp
    simp only [UInt8.toNat_ofNat']
    omega
  rw [ofNat_succ, quotient, digit]

/-- A byte string is recovered from its number and its length. -/
theorem ofNat_toNat (bytes : Bytes) : ofNat bytes.length (toNat bytes) = bytes := by
  induction bytes using List.reverseRecOn with
  | nil => rfl
  | append_singleton bytes byte ih =>
      rw [toNat_concat, List.length_append, List.length_singleton, ofNat_digit, ih]

/-- The width bounds what can be denoted. -/
theorem toNat_lt (bytes : Bytes) : toNat bytes < 256 ^ bytes.length := by
  have read := toNat_ofNat bytes.length (toNat bytes)
  rw [ofNat_toNat] at read
  rw [read]
  exact Nat.mod_lt _ (Nat.pow_pos (by decide))

/-- Only the residue modulo `256 ^ width` reaches the written bytes. -/
theorem ofNat_mod (width value : Nat) : ofNat width (value % 256 ^ width) = ofNat width value := by
  have written := ofNat_toNat (ofNat width value)
  rwa [length_ofNat, toNat_ofNat] at written

end BigEndian
end Arisa.Std
