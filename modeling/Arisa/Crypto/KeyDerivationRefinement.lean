import Arisa.Crypto.KeyDerivation
import Arisa.Std.Except
import Mathlib.Tactic.Linarith

/-!
# The byte loops compute RFC 7292

The carry loop adds two big-endian numbers plus one at the width of a block, so
one round of `pkcs12Sha1Kdf` is one round of the arithmetic derivation, and no
reachable step of it can panic.
-/

namespace Arisa.Crypto

open Arisa.Std

/-- An index within the data does not panic. -/
theorem byteAt_eq_ok {data : Bytes} {index : Nat} (bound : index < data.length) :
    byteAt data index = .ok data[index] := by
  simp [byteAt, bound]

/-- A sum within 16 bits does not panic. -/
theorem addU16_eq_ok {left right : UInt16} (bound : left.toNat + right.toNat < 2 ^ 16) :
    addU16 left right = .ok (left + right) := by
  simp only [addU16, bound, if_true]

/-- A `u16` sum of two bytes and a carry bit does not overflow, and splits into
the stored byte and the next carry. -/
theorem addByte_eq_ok {repeated block : Bytes} {carry : UInt16} {index : Nat}
    (inBlock : index < block.length) (inRepeated : index < repeated.length)
    (bit : carry.toNat ≤ 1) :
    ∃ (byte : UInt8) (next : UInt16),
      addByte repeated (block, carry) index = .ok (block.set index byte, next) ∧
      next.toNat ≤ 1 ∧
      next.toNat * 256 + byte.toNat =
        block[index].toNat + repeated[index].toNat + carry.toNat := by
  have left := block[index].toNat_lt
  have right := repeated[index].toNat_lt
  have pair : (block[index].toUInt16 + repeated[index].toUInt16).toNat =
      block[index].toNat + repeated[index].toNat := by
    rw [UInt16.toNat_add, UInt8.toNat_toUInt16, UInt8.toNat_toUInt16]
    omega
  have total : (block[index].toUInt16 + repeated[index].toUInt16 + carry).toNat =
      block[index].toNat + repeated[index].toNat + carry.toNat := by
    rw [UInt16.toNat_add, pair]
    omega
  have pairFits : block[index].toUInt16.toNat + repeated[index].toUInt16.toNat < 2 ^ 16 := by
    rw [UInt8.toNat_toUInt16, UInt8.toNat_toUInt16]
    omega
  have totalFits :
      (block[index].toUInt16 + repeated[index].toUInt16).toNat + carry.toNat < 2 ^ 16 := by
    rw [pair]
    omega
  refine ⟨_, _, by
    simp only [addByte, byteAt_eq_ok inBlock, byteAt_eq_ok inRepeated, bind, Except.bind,
      addU16_eq_ok pairFits, addU16_eq_ok totalFits, pure, Except.pure]
    rfl, ?_, ?_⟩
  · simp only [UInt16.toNat_shiftRight, total]
    have shift : (8 : UInt16).toNat % 16 = 8 := rfl
    rw [shift, Nat.shiftRight_eq_div_pow]
    omega
  · simp only [UInt16.toNat_shiftRight, UInt16.toNat_toUInt8, total]
    have shift : (8 : UInt16).toNat % 16 = 8 := rfl
    rw [shift, Nat.shiftRight_eq_div_pow]
    omega

/-- The carry of one digit goes into the next higher one. -/
private theorem carry_high {left right leftByte rightByte carry next byte : Nat}
    (digits : next * 256 + byte = leftByte + rightByte + carry) :
    left * 256 + leftByte + (right * 256 + rightByte) + carry =
      (left + right + next) * 256 + byte := by
  linarith

/-- The carry loop from index `count - 1` down to `0`: the bytes below `count`
become the low bytes of the sum of the two numbers read there, plus the carry. -/
theorem addBytes_eq_ok (repeated : Bytes) (count : Nat) (inRepeated : count ≤ repeated.length)
    (block : Bytes) (carry : UInt16) (inBlock : count ≤ block.length) (bit : carry.toNat ≤ 1) :
    ∃ next, (List.range count).reverse.foldlM (addByte repeated) (block, carry) =
      .ok (BigEndian.ofNat count (BigEndian.toNat (block.take count) +
        BigEndian.toNat (repeated.take count) + carry.toNat) ++ block.drop count, next) := by
  induction count generalizing block carry with
  | zero => exact ⟨carry, by simp [pure, Except.pure, BigEndian.ofNat]⟩
  | succ count ih =>
      obtain ⟨byte, next, step, nextBit, digits⟩ :=
        addByte_eq_ok (Nat.lt_of_succ_le inBlock) (Nat.lt_of_succ_le inRepeated) bit
      obtain ⟨last, rest⟩ := ih (Nat.le_of_succ_le inRepeated) (block.set count byte) next
        (by simpa using Nat.le_of_succ_le inBlock) nextBit
      refine ⟨last, ?_⟩
      have below : (block.set count byte).take count = block.take count := by
        rw [List.take_set, List.set_eq_of_length_le (by simp)]
      have above : (block.set count byte).drop count = byte :: block.drop (count + 1) := by
        have inSet : count < (block.set count byte).length := by
          rw [List.length_set]
          omega
        rw [List.drop_eq_getElem_cons inSet, List.getElem_set_self,
          List.drop_set_of_lt (Nat.lt_succ_self count)]
      have value : BigEndian.toNat (block.take (count + 1)) +
          BigEndian.toNat (repeated.take (count + 1)) + carry.toNat =
          (BigEndian.toNat (block.take count) + BigEndian.toNat (repeated.take count) +
            next.toNat) * 256 + byte.toNat := by
        have blockTake := List.take_succ_eq_append_getElem (Nat.lt_of_succ_le inBlock)
        have repeatedTake := List.take_succ_eq_append_getElem (Nat.lt_of_succ_le inRepeated)
        simp only [blockTake, repeatedTake, BigEndian.toNat_concat]
        exact carry_high digits
      rw [List.range_succ, List.reverse_append, List.reverse_singleton, List.singleton_append,
        List.foldlM_cons, step]
      simp only [bind, Except.bind]
      rw [rest, below, above, value, BigEndian.ofNat_digit, List.append_assoc,
        List.singleton_append]

/-- One block is replaced by its sum with the repeated digest plus one. -/
theorem addBlock_eq_ok {repeated block : Bytes} (repeatedLength : repeated.length = blockLength)
    (length : block.length = blockLength) :
    addBlock repeated block = .ok (BigEndian.ofNat blockLength
      (BigEndian.toNat block + BigEndian.toNat repeated + 1)) := by
  obtain ⟨next, loop⟩ := addBytes_eq_ok repeated blockLength (Nat.le_of_eq repeatedLength.symm)
    block 1 (Nat.le_of_eq length.symm) (by decide)
  have wholeBlock : block.take blockLength = block := List.take_of_length_le (by omega)
  have wholeRepeated : repeated.take blockLength = repeated := List.take_of_length_le (by omega)
  have nothing : block.drop blockLength = [] := List.drop_of_length_le (by omega)
  rw [wholeBlock, wholeRepeated, nothing, List.append_nil] at loop
  simp only [addBlock, loop, bind, Except.bind, pure, Except.pure]
  rfl

section Refinement

variable (hash : Bytes → Digest)

/-- A hash function that never fails. -/
def total : Sha1 := fun data => .ok (hash data)

/-- A total hash has no failure to report. -/
theorem digest_total (data : Bytes) : (total hash).digest data = .ok (hash data) := rfl

/-- Repeated hashing iterates the underlying function on byte strings. -/
theorem rehash_total (count : Nat) (digest : Digest) :
    ∃ final, rehash (total hash) count digest = .ok final ∧
      final.1 = (fun data => (hash data).1)^[count] digest.1 := by
  induction count generalizing digest with
  | zero => exact ⟨digest, rfl, rfl⟩
  | succ count ih =>
      obtain ⟨final, loop, value⟩ := ih (hash digest.1)
      refine ⟨final, ?_, ?_⟩
      · simp only [rehash, digest_total, bind, Except.bind, loop]
      · rw [value, Function.iterate_succ_apply]

/-- Reading data cyclically by index fills a string with copies of it. -/
theorem cyclic_eq_ok {data : Bytes} (nonempty : data ≠ []) (length : Nat) :
    ((List.range length).mapM fun index => byteAt data (index % data.length)) =
      .ok (Pkcs12.fill data length) := by
  have inBounds : ∀ index, index % data.length < data.length :=
    fun index => Nat.mod_lt index (List.length_pos_iff.mpr nonempty)
  rw [mapM_eq_ok (fun index => data.get ⟨index % data.length, inBounds index⟩) _
    fun index _ => byteAt_eq_ok (inBounds index)]
  rw [Pkcs12.fill_eq_map nonempty _ _ fun index => List.getElem?_eq_getElem (inBounds index)]
  rfl

/-- Padding fills whole blocks with copies of the data. -/
theorem pad_eq_ok (data : Bytes) : pad data = .ok (Pkcs12.expand blockLength data) := by
  by_cases empty : data = []
  · subst empty
    rfl
  · have notEmpty : data.isEmpty = false := by simpa using empty
    simp only [pad, notEmpty, Bool.false_eq_true, if_false]
    rw [cyclic_eq_ok empty, Pkcs12.expand, Nat.mul_comm blockLength]

/-- A digest has at least one byte. -/
theorem Digest.ne_nil (digest : Digest) : digest.1 ≠ [] := by
  intro empty
  have length := digest.2
  rw [empty] at length
  cases length

/-- The digest repeated over a block by index is the digest filled to a block. -/
theorem repeatDigest_eq_ok (digest : Digest) :
    ((List.range blockLength).mapM fun index => byteAt digest.1 (index % hashLength)) =
      .ok (Pkcs12.fill digest.1 blockLength) := by
  have cyclic := cyclic_eq_ok digest.ne_nil blockLength
  rwa [digest.2] at cyclic

/-- The bytes a list of block numbers stands for. -/
def blockBytes (blocks : List Nat) : Bytes :=
  blocks.flatMap (BigEndian.ofNat blockLength)

/-- The blocks of the buffer are the numbers it was made of. -/
theorem slices_blockBytes (blocks : List Nat) :
    slices blockLength (blockBytes blocks) = blocks.map (BigEndian.ofNat blockLength) := by
  rw [blockBytes, List.flatMap_def]
  apply slices_flatten (by decide)
  intro block member
  obtain ⟨value, _, rfl⟩ := List.mem_map.mp member
  exact BigEndian.length_ofNat blockLength value

/-- One round of the output loop is one round of the arithmetic derivation. -/
theorem advance_eq_ok (diversifier result : Bytes) {iterations : UInt32}
    (positive : 1 ≤ iterations) (blocks : List Nat) :
    let output := Pkcs12.outputBlock (fun data => (hash data).1) blockLength iterations.toNat
      diversifier blocks
    KdfState.advance (total hash) diversifier iterations ⟨blockBytes blocks, result⟩ =
      .ok ⟨blockBytes (Pkcs12.nextInput blockLength output blocks), result ++ output⟩ := by
  intro output
  obtain ⟨digest, loop, value⟩ := rehash_total hash (iterations.toNat - 1)
    (hash (diversifier ++ blockBytes blocks))
  have rounds : iterations.toNat = iterations.toNat - 1 + 1 := by
    have := UInt32.le_iff_toNat_le.mp positive
    simp only [UInt32.toNat_one] at this
    omega
  have digestEq : digest.1 = output := by
    simp only [output, Pkcs12.outputBlock]
    rw [value, rounds, Function.iterate_succ_apply]
    rfl
  have filledLength : (Pkcs12.fill output blockLength).length = blockLength :=
    Pkcs12.length_fill (digestEq ▸ digest.ne_nil) blockLength
  have step : ∀ block ∈ blocks.map (BigEndian.ofNat blockLength),
      (if block.length = blockLength then addBlock (Pkcs12.fill output blockLength) block
        else .ok block) =
      .ok (BigEndian.ofNat blockLength (BigEndian.toNat block +
        BigEndian.toNat (Pkcs12.fill output blockLength) + 1)) := by
    intro block member
    obtain ⟨value, _, rfl⟩ := List.mem_map.mp member
    have length := BigEndian.length_ofNat blockLength value
    rw [if_pos length, addBlock_eq_ok filledLength length]
  simp only [KdfState.advance, digest_total, loop, repeatDigest_eq_ok, slices_blockBytes,
    bind, Except.bind, pure, Except.pure]
  rw [digestEq, mapM_eq_ok _ _ step]
  simp only [Pkcs12.nextInput_bytes, blockBytes]

/-- The output loop appends the output blocks of the derivation. -/
theorem advanceTimes_eq_ok (diversifier : Bytes) {iterations : UInt32}
    (positive : 1 ≤ iterations) (count : Nat) (blocks : List Nat) (result : Bytes) :
    ∃ input, KdfState.advanceTimes (total hash) diversifier iterations count
        ⟨blockBytes blocks, result⟩ =
      .ok ⟨input, result ++ (Pkcs12.outputBlocks (fun data => (hash data).1) blockLength
        iterations.toNat diversifier count blocks).flatten⟩ := by
  induction count generalizing blocks result with
  | zero => exact ⟨blockBytes blocks, by simp [KdfState.advanceTimes, Pkcs12.outputBlocks]⟩
  | succ count ih =>
      obtain ⟨input, loop⟩ := ih
        (Pkcs12.nextInput blockLength (Pkcs12.outputBlock (fun data => (hash data).1) blockLength
          iterations.toNat diversifier blocks) blocks)
        (result ++ Pkcs12.outputBlock (fun data => (hash data).1) blockLength
          iterations.toNat diversifier blocks)
      refine ⟨input, ?_⟩
      simp only [KdfState.advanceTimes, advance_eq_ok hash diversifier result positive blocks,
        bind, Except.bind]
      rw [loop]
      simp [Pkcs12.outputBlocks, List.append_assoc]

/-- The derived key is the one of RFC 7292, with its full length, and nothing on
the way to it panics. -/
theorem pkcs12Sha1Kdf_eq_ok (password salt : Bytes) (id : UInt8) {iterations : UInt32}
    (positive : 1 ≤ iterations) (keyLength : Nat) :
    pkcs12Sha1Kdf (total hash) password salt id iterations keyLength =
      .ok (Pkcs12.deriveKey (fun data => (hash data).1) hashLength blockLength password salt id
        iterations.toNat keyLength) := by
  obtain ⟨input, loop⟩ := advanceTimes_eq_ok hash (List.replicate blockLength id) positive
    ((keyLength + hashLength - 1) / hashLength) (Pkcs12.initialInput blockLength password salt) []
  have padded : blockBytes (Pkcs12.initialInput blockLength password salt) =
      Pkcs12.expand blockLength salt ++ Pkcs12.expand blockLength password :=
    Pkcs12.initialInput_bytes (by decide) password salt
  rw [padded] at loop
  simp only [pkcs12Sha1Kdf, pad_eq_ok, bind, Except.bind, pure, Except.pure]
  rw [loop]
  rfl

/-- The derivation yields as many bytes as were asked for. -/
theorem length_rfcKey (password salt : Bytes) (id : UInt8) {iterations : UInt32}
    (positive : 1 ≤ iterations) (keyLength : Nat) :
    (Pkcs12.deriveKey (fun data => (hash data).1) hashLength blockLength password salt id
      iterations.toNat keyLength).length = keyLength :=
  Pkcs12.length_deriveKey (fun data => (hash data).2) (by decide) blockLength password salt id
    (UInt32.le_iff_toNat_le.mp positive) keyLength

/-- The `expect` of `derive_key` never fails. -/
theorem deriveKey_eq_ok (salt : Bytes) :
    ∃ key : KakaoKey, deriveKey (total hash) salt = .ok key ∧
      key.1 = Pkcs12.deriveKey (fun data => (hash data).1) hashLength blockLength kdfPassword salt
        1 2 32 := by
  have positive : (1 : UInt32) ≤ 2 := by decide
  have sized := length_rfcKey hash kdfPassword salt 1 positive 32
  refine ⟨⟨_, sized⟩, ?_, rfl⟩
  simp only [deriveKey, pkcs12Sha1Kdf_eq_ok hash kdfPassword salt 1 positive 32, bind,
    Except.bind, dif_pos sized]
  rfl

end Refinement

section Failures

variable {α β : Type}

/-- The expected result, or an error that OpenSSL reported on the way to it. -/
def Degrades (result expected : Except KdfFailure α) : Prop :=
  result = expected ∨ ∃ stack, result = .error (.openssl stack)

/-- An operation that fails early, or goes on as expected, does so in a sequence. -/
theorem Degrades.bind {first expected : Except KdfFailure α}
    {second wanted : α → Except KdfFailure β} (head : Degrades first expected)
    (tail : ∀ value, Degrades (second value) (wanted value)) :
    Degrades (first >>= second) (expected >>= wanted) := by
  rcases head with rfl | ⟨stack, rfl⟩
  · cases first with
    | error error => exact .inl rfl
    | ok value => exact tail value
  · exact .inr ⟨stack, rfl⟩

/-- The hash function with a digest in place of each failure. -/
def patched (sha1 : Sha1) : Sha1 :=
  total fun data =>
    match sha1 data with
    | .ok digest => digest
    | .error _ => ⟨List.replicate hashLength 0, List.length_replicate⟩

variable (sha1 : Sha1)

/-- Hashing may fail where the patched hash does not; else the digests agree. -/
theorem digest_degrades (data : Bytes) :
    Degrades (sha1.digest data) ((patched sha1).digest data) := by
  rw [patched, digest_total, Sha1.digest]
  cases sha1 data with
  | error stack => exact .inr ⟨stack, rfl⟩
  | ok digest => exact .inl rfl

/-- The repeated hash may fail early in the same way. -/
theorem rehash_degrades (count : Nat) (digest : Digest) :
    Degrades (rehash sha1 count digest) (rehash (patched sha1) count digest) := by
  induction count generalizing digest with
  | zero => exact .inl rfl
  | succ count ih => exact (digest_degrades sha1 _).bind ih

/-- One block of the key may fail early in the same way. -/
theorem advance_degrades (diversifier : Bytes) (iterations : UInt32) (state : KdfState) :
    Degrades (state.advance sha1 diversifier iterations)
      (state.advance (patched sha1) diversifier iterations) :=
  (digest_degrades sha1 _).bind fun _ => (rehash_degrades sha1 _ _).bind fun _ => .inl rfl

/-- So may any number of blocks. -/
theorem advanceTimes_degrades (diversifier : Bytes) (iterations : UInt32) (count : Nat)
    (state : KdfState) :
    Degrades (KdfState.advanceTimes sha1 diversifier iterations count state)
      (KdfState.advanceTimes (patched sha1) diversifier iterations count state) := by
  induction count generalizing state with
  | zero => exact .inl rfl
  | succ count ih => exact (advance_degrades sha1 diversifier iterations state).bind ih

/-- `derive_key` does not panic: it returns a key or the error of a digest. -/
theorem deriveKey_returns (salt : Bytes) :
    (∃ key, deriveKey sha1 salt = .ok key) ∨
      ∃ stack, deriveKey sha1 salt = .error (.openssl stack) := by
  have degrades : Degrades (deriveKey sha1 salt) (deriveKey (patched sha1) salt) := by
    refine Degrades.bind ?_ fun _ => .inl rfl
    refine Degrades.bind (.inl rfl) fun _ => Degrades.bind (.inl rfl) fun _ => ?_
    exact (advanceTimes_degrades sha1 _ _ _ _).bind fun _ => .inl rfl
  rcases degrades with same | failed
  · obtain ⟨key, returned, -⟩ := deriveKey_eq_ok _ salt
    exact .inl ⟨key, same.trans returned⟩
  · exact .inr failed

end Failures

/-- `pkcs12_sha1_kdf` is the key derivation function of RFC 7292 for every hash
function, without overflow or an index out of range, and `derive_key` returns. -/
theorem pkcs12Sha1Kdf_conforms (hash : Bytes → Digest) (password salt : Bytes) (id : UInt8)
    (iterations : UInt32) (positive : 1 ≤ iterations) (keyLength : Nat) :
    ∃ key, pkcs12Sha1Kdf (total hash) password salt id iterations keyLength = .ok key ∧
      key = Pkcs12.deriveKey (fun data => (hash data).1) 20 64 password salt id
        iterations.toNat keyLength ∧
      key.length = keyLength ∧
      ∃ kakaoKey : KakaoKey, deriveKey (total hash) salt = .ok kakaoKey := by
  obtain ⟨kakaoKey, returned, _⟩ := deriveKey_eq_ok hash salt
  exact ⟨_, pkcs12Sha1Kdf_eq_ok hash password salt id positive keyLength, rfl,
    length_rfcKey hash password salt id positive keyLength, kakaoKey, returned⟩

/-- The derivation of `derive_key`, with a hash that ignores its input. -/
theorem pkcs12Sha1Kdf_conforms_kakao :
    let hash : Bytes → Digest := fun _ => ⟨List.replicate 20 7, rfl⟩
    let salt : Bytes := [49, 50, 51]
    ∃ key, pkcs12Sha1Kdf (total hash) kdfPassword salt 1 2 32 = .ok key ∧
      key = Pkcs12.deriveKey (fun data => (hash data).1) 20 64 kdfPassword salt 1
        (2 : UInt32).toNat 32 ∧
      key.length = 32 ∧
      ∃ kakaoKey : KakaoKey, deriveKey (total hash) salt = .ok kakaoKey :=
  pkcs12Sha1Kdf_conforms (fun _ => ⟨List.replicate 20 7, rfl⟩) kdfPassword [49, 50, 51] 1 2
    (by decide) 32

end Arisa.Crypto
