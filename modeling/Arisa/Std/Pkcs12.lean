import Arisa.Std.BigEndian
import Arisa.Std.Slices
import Mathlib.Logic.Function.Iterate

/-!
# The PKCS #12 key derivation function

RFC 7292, Appendix B.2, over an arbitrary hash function, as arithmetic: the
running input is a list of numbers below `2 ^ (8 * v)`, and each output block
adds itself plus one to all of them.
-/

namespace Arisa.Std.Pkcs12

/-- Copies of `data` concatenated and cut to `length` bytes. -/
def fill (data : Bytes) (length : Nat) : Bytes :=
  ((List.replicate length data).flatten).take length

/-- A byte of the repeated data is one of the data itself. -/
private theorem getElem?_copies {data : Bytes} {count index : Nat}
    (bound : index < count * data.length) :
    ((List.replicate count data).flatten)[index]? = data[index % data.length]? := by
  induction count generalizing index with
  | zero => omega
  | succ count ih =>
      rw [Nat.succ_mul] at bound
      rw [List.replicate_succ, List.flatten_cons]
      by_cases first : index < data.length
      · rw [List.getElem?_append_left first, Nat.mod_eq_of_lt first]
      · have later : data.length ≤ index := by omega
        rw [List.getElem?_append_right later, ih (by omega), ← Nat.mod_eq_sub_mod later]

/-- Byte `index` of a filled string is byte `index % data.length` of the data. -/
theorem getElem?_fill {data : Bytes} (nonempty : data ≠ []) {length index : Nat}
    (bound : index < length) : (fill data length)[index]? = data[index % data.length]? := by
  have positive : 0 < data.length := List.length_pos_iff.mpr nonempty
  unfold fill
  rw [List.getElem?_take_of_lt bound]
  exact getElem?_copies (Nat.lt_of_lt_of_le bound (Nat.le_mul_of_pos_right length positive))

/-- A filled string has the length asked for. -/
theorem length_fill {data : Bytes} (nonempty : data ≠ []) (length : Nat) :
    (fill data length).length = length := by
  have positive : 0 < data.length := List.length_pos_iff.mpr nonempty
  unfold fill
  rw [List.length_take, List.length_flatten, List.map_replicate, List.sum_replicate_nat]
  exact Nat.min_eq_left (Nat.le_mul_of_pos_right length positive)

/-- Filling is reading the data cyclically. -/
theorem fill_eq_map {data : Bytes} (nonempty : data ≠ []) (length : Nat) (byte : Nat → UInt8)
    (cyclic : ∀ index, data[index % data.length]? = some (byte index)) :
    fill data length = (List.range length).map byte := by
  apply List.ext_getElem?
  intro index
  by_cases bound : index < length
  · rw [getElem?_fill nonempty bound, cyclic]
    simp [bound]
  · have filled := length_fill nonempty length
    rw [List.getElem?_eq_none (by omega), List.getElem?_eq_none (by simp; omega)]

/-- A whole number of `v`-byte blocks filled with `data`; no data makes no block. -/
def expand (v : Nat) (data : Bytes) : Bytes :=
  fill data (v * ((data.length + v - 1) / v))

/-- Whole blocks are filled. -/
theorem dvd_length_expand (v : Nat) (data : Bytes) : v ∣ (expand v data).length := by
  by_cases empty : data = []
  · subst empty
    simp [expand, fill]
  · rw [expand, length_fill empty]
    exact Nat.dvd_mul_right v _

section Derivation

variable (hash : Bytes → Bytes) (v rounds : Nat) (diversifier : Bytes)

/-- `A_i = H^r(D || I)`. -/
def outputBlock (input : List Nat) : Bytes :=
  hash^[rounds] (diversifier ++ input.flatMap (BigEndian.ofNat v))

/-- `I_j = (I_j + B + 1) mod 2^(8v)`, with `B` the output block filled to `v` bytes. -/
def nextInput (output : Bytes) (input : List Nat) : List Nat :=
  input.map fun block => (block + BigEndian.toNat (fill output v) + 1) % 2 ^ (8 * v)

/-- On written blocks the update is an addition at the width of a block. -/
theorem nextInput_bytes (output : Bytes) (input : List Nat) :
    ((input.map (BigEndian.ofNat v)).map fun block =>
      BigEndian.ofNat v (BigEndian.toNat block + BigEndian.toNat (fill output v) + 1)).flatten =
    (nextInput v output input).flatMap (BigEndian.ofNat v) := by
  have width : 2 ^ (8 * v) = 256 ^ v := by rw [Nat.pow_mul]
  simp only [nextInput, List.flatMap_def, List.map_map, width]
  congr 1
  apply List.map_congr_left
  intro block _
  simp only [Function.comp]
  rw [BigEndian.ofNat_mod, BigEndian.toNat_ofNat, ← BigEndian.ofNat_mod, Nat.add_assoc,
    Nat.mod_add_mod, BigEndian.ofNat_mod, Nat.add_assoc]

/-- The first `count` output blocks `A_1, A_2, ...`. -/
def outputBlocks : Nat → List Nat → List Bytes
  | 0, _ => []
  | count + 1, input =>
      let output := outputBlock hash v rounds diversifier input
      output :: outputBlocks count (nextInput v output input)

/-- Each round gives one digest. -/
theorem length_outputBlocks {u : Nat} (sized : ∀ data, (hash data).length = u)
    (positive : 1 ≤ rounds) (count : Nat) (input : List Nat) :
    ((outputBlocks hash v rounds diversifier count input).flatten).length = count * u := by
  induction count generalizing input with
  | zero => simp [outputBlocks]
  | succ count ih =>
      have output : (outputBlock hash v rounds diversifier input).length = u := by
        rw [outputBlock, ← Nat.sub_add_cancel positive, Function.iterate_succ_apply']
        exact sized _
      rw [outputBlocks, List.flatten_cons, List.length_append, output, ih, Nat.succ_mul,
        Nat.add_comm]

end Derivation

/-- The input blocks of the derivation: `S || P`, one number for each block. -/
def initialInput (v : Nat) (password salt : Bytes) : List Nat :=
  (slices v (expand v salt ++ expand v password)).map BigEndian.toNat

/-- Written out again, the input blocks are the padded salt and password. -/
theorem initialInput_bytes {v : Nat} (positive : 0 < v) (password salt : Bytes) :
    (initialInput v password salt).flatMap (BigEndian.ofNat v) =
      expand v salt ++ expand v password := by
  have whole : v ∣ (expand v salt ++ expand v password).length := by
    rw [List.length_append]
    exact Nat.dvd_add (dvd_length_expand v salt) (dvd_length_expand v password)
  have full := length_of_mem_slices positive _ whole
  have same : (slices v (expand v salt ++ expand v password)).map
      (BigEndian.ofNat v ∘ BigEndian.toNat) = slices v (expand v salt ++ expand v password) := by
    refine Eq.trans (List.map_congr_left ?_) (List.map_id _)
    intro block member
    simp only [Function.comp, id]
    rw [← full block member, BigEndian.ofNat_toNat]
  rw [initialInput, List.flatMap_def, List.map_map, same, flatten_slices positive]

/-- The first `length` bytes of `A_1 || A_2 || ... || A_c`, `c = ceil(length / u)`. -/
def deriveKey (hash : Bytes → Bytes) (u v : Nat) (password salt : Bytes) (id : UInt8)
    (rounds length : Nat) : Bytes :=
  let count := (length + u - 1) / u
  ((outputBlocks hash v rounds (List.replicate v id) count
    (initialInput v password salt)).flatten).take length

/-- The derived key has the length asked for. -/
theorem length_deriveKey {hash : Bytes → Bytes} {u : Nat} (sized : ∀ data, (hash data).length = u)
    (outputs : 0 < u) (v : Nat) (password salt : Bytes) (id : UInt8) {rounds : Nat}
    (positive : 1 ≤ rounds) (length : Nat) :
    (deriveKey hash u v password salt id rounds length).length = length := by
  have enough : length ≤ (length + u - 1) / u * u := by
    have remainder := Nat.mod_lt (length + u - 1) outputs
    have division := Nat.div_add_mod (length + u - 1) u
    rw [Nat.mul_comm] at division
    omega
  rw [deriveKey, List.length_take, length_outputBlocks hash v rounds _ sized positive]
  exact Nat.min_eq_left enough

end Arisa.Std.Pkcs12
