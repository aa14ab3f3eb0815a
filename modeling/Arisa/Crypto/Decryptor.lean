import Arisa.Crypto.KeyDerivation
import Arisa.Std.Utf8

/-!
# Decryption of stored texts

`Decryptor` of `crypto.rs`. A text that cannot be decrypted is returned as it
is. The table of keys already derived does not show in the result of a call, as
`keyCache_transparent` proves, and is left out here.
-/

namespace Arisa.Crypto

open Arisa.Std

def prefixes : List String :=
  ["", "", "12", "24", "18", "30", "36", "12", "48", "7", "35", "40", "17", "23", "29", "isabel",
    "kale", "sulli", "van", "merry", "kyle", "james", "maddux", "tony", "hayden", "paul", "elijah",
    "dorothy", "sally", "bran", "extr.ursra", "veil"]

def kakaoIv : Bytes :=
  [15, 8, 1, 0, 25, 71, 37, 220, 21, 245, 23, 224, 225, 21, 12, 53]

/-- The library functions: base64, AES-256-CBC decryption and SHA-1. -/
structure Ciphers where
  decode : String → Except String Bytes
  aes256Cbc : KakaoKey → Bytes → Bytes → Except ErrorStack Bytes
  sha1 : Sha1

structure Decryptor where
  currentUserId : Int64
  ciphers : Ciphers

inductive DecryptError where
  | message (text : String)
  | kdf (failure : KdfFailure)
  | openssl (stack : ErrorStack)

namespace Decryptor

/-- The prefix and the user id, cut or zero-filled to 16 bytes. -/
def salt (textPrefix : String) (userId : Int64) : Bytes :=
  let text := (textPrefix ++ toString userId.toInt).toUTF8.toList
  text.take 16 ++ List.replicate (16 - text.length) 0

def key (decryptor : Decryptor) (enc : UInt32) (userId : Int64) : Except DecryptError KakaoKey :=
  match prefixes[enc.toNat]? with
  | none => .error (.message ("invalid enc value: " ++ toString enc.toNat))
  | some textPrefix =>
      (deriveKey decryptor.ciphers.sha1 (salt textPrefix userId)).mapError .kdf

def tryDecrypt (decryptor : Decryptor) (ciphertext : String) (enc : UInt32) (userId : Int64) :
    Except DecryptError String :=
  if ciphertext.isEmpty ∨ ciphertext = "\x7b\x7d" then
    .error (.message "invalid ciphertext")
  else do
    let bytes ← (decryptor.ciphers.decode ciphertext).mapError .message
    if bytes.isEmpty then
      .error (.message "empty ciphertext")
    else do
      let key ← decryptor.key enc userId
      let plaintext ← (decryptor.ciphers.aes256Cbc key kakaoIv bytes).mapError .openssl
      return String.ofList (fromUtf8Lossy plaintext)

def decryptForUser (decryptor : Decryptor) (ciphertext : String) (enc : UInt32)
    (userId : Int64) : String :=
  match decryptor.tryDecrypt ciphertext enc userId with
  | .ok plaintext => plaintext
  | .error _ => ciphertext

def decrypt (decryptor : Decryptor) (ciphertext : String) (enc : UInt32) : String :=
  decryptor.decryptForUser ciphertext enc decryptor.currentUserId

/-- A text that is not base64 is returned unchanged. -/
theorem decryptForUser_of_decode_error {decryptor : Decryptor} {ciphertext message : String}
    (undecodable : decryptor.ciphers.decode ciphertext = .error message) (enc : UInt32)
    (userId : Int64) : decryptor.decryptForUser ciphertext enc userId = ciphertext := by
  unfold decryptForUser tryDecrypt
  split
  · rename_i plaintext decrypted
    split at decrypted
    · cases decrypted
    · simp [undecodable, Except.mapError, bind, Except.bind] at decrypted
  · rfl

end Decryptor
end Arisa.Crypto
