import Arisa.Crypto.KeyDerivation

/-!
# The key of the user database

`crypto_user.rs`. The generated reader of `PreferenceMap` and the PBKDF2 of
OpenSSL are the parameter `UserCrypto`.
-/

namespace Arisa.Crypto

open Arisa.Std

/-- The `oneof` of a preference; of its members only `long` is read. -/
inductive Preference where
  | long (value : Int64)
  | other
deriving DecidableEq

/-- `PreferenceMap`: a preference may have no value. -/
structure PreferenceMap where
  preferences : List (String × Option Preference)

/-- `PreferenceMap::decode` and `pkcs5::pbkdf2_hmac` with SHA-256, to a number of bytes. -/
structure UserCrypto where
  decode : Bytes → Option PreferenceMap
  pbkdf2 : (password salt : Bytes) → (iterations length : Nat) → Option Bytes

namespace UserCrypto

variable (crypto : UserCrypto)

def extractDbSeed (data : Bytes) : Option Int64 := do
  let map ← crypto.decode data
  let value ← map.preferences.lookup "userDbPassPhraseSalt"
  match ← value with
  | .long seed => some seed
  | .other => none

def password : Bytes :=
  [4, 15, 81, 123, 77, 5, 23, 99, 2, 111, 10, 31, 54, 29, 109, 97]

/-- The salt number between its marks, cut or zero-filled to 16 bytes. -/
def salt (saltNumber : Int64) : Bytes :=
  let text := ("se" ++ toString saltNumber.toInt ++ "ed").toUTF8.data.toList
  text.take 16 ++ List.replicate (16 - text.length) 0

/-- `format!("\x7bbyte:02x\x7d")`. -/
def hexByte (byte : UInt8) : List Char :=
  [Nat.digitChar (byte.toNat / 16), Nat.digitChar (byte.toNat % 16)]

def kdf (saltNumber : Int64) : Option String := do
  let key ← crypto.pbkdf2 password (salt saltNumber) 4096 32
  return String.ofList (key.flatMap hexByte)

end UserCrypto

end Arisa.Crypto
