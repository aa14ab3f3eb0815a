import Arisa.Std.Pkcs12

/-!
# Key derivation of `crypto.rs`

`pkcs12Sha1Kdf` follows the byte loops of the source: cyclic padding by index,
one in-place addition with carry per 64-byte block, sums in `u16`. A panic of the
source (an index out of range, an overflowing sum, a failed `expect`) is an
error here, so that its absence is a theorem.
-/

namespace Arisa.Crypto

open Arisa.Std

/-- The errors OpenSSL reports for a digest it could not compute. -/
structure ErrorStack where
  errors : List String
deriving DecidableEq

inductive KdfFailure where
  | openssl (stack : ErrorStack)
  | indexOutOfRange
  | sumOverflow
  | expect (message : String)
deriving DecidableEq

def hashLength : Nat := 20
def blockLength : Nat := 64

/-- A SHA-1 digest; its length is part of the type, as in `DigestBytes`. -/
abbrev Digest := { bytes : Bytes // bytes.length = hashLength }

/-- `openssl::hash::hash(MessageDigest::sha1(), _)`. -/
abbrev Sha1 := Bytes → Except ErrorStack Digest

def Sha1.digest (sha1 : Sha1) (data : Bytes) : Except KdfFailure Digest :=
  (sha1 data).mapError .openssl

/-- `data[index]`. -/
def byteAt (data : Bytes) (index : Nat) : Except KdfFailure UInt8 :=
  match data[index]? with
  | some byte => .ok byte
  | none => .error .indexOutOfRange

/-- `left + right` on `u16`. -/
def addU16 (left right : UInt16) : Except KdfFailure UInt16 :=
  if left.toNat + right.toNat < 2 ^ 16 then .ok (left + right) else .error .sumOverflow

def pad (data : Bytes) : Except KdfFailure Bytes :=
  if data.isEmpty then
    .ok []
  else
    let length := (data.length + blockLength - 1) / blockLength * blockLength
    (List.range length).mapM fun index => byteAt data (index % data.length)

/-- `for _ in 1..iterations { digest = hash(&digest)? }`, `count` times. -/
def rehash (sha1 : Sha1) : Nat → Digest → Except KdfFailure Digest
  | 0, digest => .ok digest
  | count + 1, digest => do
      let next ← sha1.digest digest.1
      rehash sha1 count next

/-- One step of the carry loop, at `index` of `block`. -/
def addByte (repeated : Bytes) (state : Bytes × UInt16) (index : Nat) :
    Except KdfFailure (Bytes × UInt16) := do
  let (block, carry) := state
  let left ← byteAt block index
  let right ← byteAt repeated index
  let pairSum ← addU16 left.toUInt16 right.toUInt16
  let sum ← addU16 pairSum carry
  return (block.set index sum.toUInt8, sum >>> 8)

def addBlock (repeated block : Bytes) : Except KdfFailure Bytes := do
  let (sum, _) ← (List.range blockLength).reverse.foldlM (addByte repeated) (block, 1)
  return sum

/-- The mutable state of the output loop. -/
structure KdfState where
  input : Bytes
  result : Bytes

def KdfState.advance (sha1 : Sha1) (diversifier : Bytes) (iterations : UInt32)
    (state : KdfState) : Except KdfFailure KdfState := do
  let first ← sha1.digest (diversifier ++ state.input)
  let digest ← rehash sha1 (iterations.toNat - 1) first
  let repeated ← (List.range blockLength).mapM fun index => byteAt digest.1 (index % hashLength)
  -- `chunks_exact_mut` leaves a shorter last chunk alone.
  let blocks ← (slices blockLength state.input).mapM fun block =>
    if block.length = blockLength then addBlock repeated block else .ok block
  return { input := blocks.flatten, result := state.result ++ digest.1 }

def KdfState.advanceTimes (sha1 : Sha1) (diversifier : Bytes) (iterations : UInt32) :
    Nat → KdfState → Except KdfFailure KdfState
  | 0, state => .ok state
  | count + 1, state => do
      let next ← state.advance sha1 diversifier iterations
      advanceTimes sha1 diversifier iterations count next

def pkcs12Sha1Kdf (sha1 : Sha1) (password salt : Bytes) (id : UInt8) (iterations : UInt32)
    (keyLength : Nat) : Except KdfFailure Bytes := do
  let diversifier := List.replicate blockLength id
  let saltBlocks ← pad salt
  let passwordBlocks ← pad password
  let blocks := (keyLength + hashLength - 1) / hashLength
  let final ← KdfState.advanceTimes sha1 diversifier iterations blocks
    { input := saltBlocks ++ passwordBlocks, result := [] }
  return final.result.take keyLength

def kdfPassword : Bytes :=
  [0, 22, 0, 8, 0, 9, 0, 111, 0, 2, 0, 23, 0, 43, 0, 8, 0, 33, 0, 33, 0, 10, 0, 16, 0, 3, 0, 3, 0,
    7, 0, 6, 0, 0]

abbrev KakaoKey := { bytes : Bytes // bytes.length = 32 }

def deriveKey (sha1 : Sha1) (salt : Bytes) : Except KdfFailure KakaoKey := do
  let bytes ← pkcs12Sha1Kdf sha1 kdfPassword salt 1 2 32
  if sized : bytes.length = 32 then return ⟨bytes, sized⟩
  else .error (.expect "32-byte derived key")

end Arisa.Crypto
