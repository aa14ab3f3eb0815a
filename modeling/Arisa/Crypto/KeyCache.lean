import Arisa.Crypto.Decryptor
import Arisa.Crypto.KeyDerivationRefinement
import Arisa.Semantics.Tasks

/-!
# The table of derived keys

The clones of a `Decryptor` share one table behind a mutex, from salts to keys. A
call works on its own until it takes the lock, looks up or derives its key in one
turn, and works on its own again. No order of turns can be told from the results:
each call returns what it returns with an empty table.
-/

namespace Arisa.Crypto

open Arisa.Semantics Arisa.Std

/-- `Mutex<HashMap<Vec<u8>, KakaoKey>>`. -/
structure KeyTable where
  keys : Bytes → Option KakaoKey
  poisoned : Bool

namespace KeyTable

def new : KeyTable := ⟨fun _ => none, false⟩

def insert (table : KeyTable) (salt : Bytes) (key : KakaoKey) : KeyTable :=
  { table with keys := Function.update table.keys salt (some key) }

end KeyTable

/-- A call on a clone. -/
inductive Call where
  | decrypt (ciphertext : String) (enc : UInt32)
  | decryptForUser (ciphertext : String) (enc : UInt32) (userId : Int64)

namespace Call

def ciphertext : Call → String
  | decrypt ciphertext _ => ciphertext
  | decryptForUser ciphertext _ _ => ciphertext

def enc : Call → UInt32
  | decrypt _ enc => enc
  | decryptForUser _ enc _ => enc

/-- `decrypt` is for the user of the decryptor. -/
def userId (decryptor : Decryptor) : Call → Int64
  | decrypt _ _ => decryptor.currentUserId
  | decryptForUser _ _ userId => userId

/-- `.unwrap_or_else(|_| ciphertext.to_string())`. -/
def text (call : Call) (result : Except DecryptError String) : String :=
  match result with
  | .ok plaintext => plaintext
  | .error _ => call.ciphertext

end Call

namespace Decryptor

variable (decryptor : Decryptor)

/-- `try_decrypt` and `key` up to the lock: the bytes to decrypt and the salt. -/
def beforeLock (call : Call) : Except DecryptError (Bytes × Bytes) :=
  if call.ciphertext.isEmpty ∨ call.ciphertext = "\x7b\x7d" then
    .error (.message "invalid ciphertext")
  else do
    let bytes ← (decryptor.ciphers.decode call.ciphertext).mapError .message
    if bytes.isEmpty then
      .error (.message "empty ciphertext")
    else
      match prefixes[call.enc.toNat]? with
      | none => .error (.message ("invalid enc value: " ++ toString call.enc.toNat))
      | some textPrefix => .ok (bytes, salt textPrefix (call.userId decryptor))

/-- `key` while it holds the lock. A panic of the derivation has no result and leaves the
mutex poisoned. -/
def underLock (salt : Bytes) (table : KeyTable) :
    Option (Except DecryptError KakaoKey) × KeyTable :=
  if table.poisoned then
    (some (.error (.message "decryptor lock poisoned")), table)
  else
    match table.keys salt with
    | some key => (some (.ok key), table)
    | none =>
        match deriveKey decryptor.ciphers.sha1 salt with
        | .ok key => (some (.ok key), table.insert salt key)
        | .error (.openssl stack) => (some (.error (.kdf (.openssl stack))), table)
        | .error _ => (none, { table with poisoned := true })

/-- `try_decrypt` after `key` returned. -/
def afterLock (bytes : Bytes) (key : Except DecryptError KakaoKey) :
    Except DecryptError String := do
  let key ← key
  let plaintext ← (decryptor.ciphers.aes256Cbc key kakaoIv bytes).mapError .openssl
  return String.ofList (fromUtf8Lossy plaintext)

/-- A call from its beginning to its end: its result, unless it panics, and the table. -/
def callWith (call : Call) (table : KeyTable) : Option String × KeyTable :=
  match decryptor.beforeLock call with
  | .error _ => (some call.ciphertext, table)
  | .ok (bytes, salt) =>
      let (key, next) := decryptor.underLock salt table
      (key.map fun key => call.text (decryptor.afterLock bytes key), next)

end Decryptor

/-! ## Calls in any order of turns -/

/-- A thread between its turns. -/
inductive Thread where
  | idle
  | waiting (call : Call) (bytes salt : Bytes)
  | keyed (call : Call) (bytes : Bytes) (key : Except DecryptError KakaoKey)
  | panicked (call : Call)

inductive CallEvent where
  | invoke (call : Call)
  | locked (call : Call)
  | answer (call : Call) (text : String)

/-- What a thread does in one turn. -/
inductive Turn (decryptor : Decryptor) :
    KeyTable → Thread → CallEvent → KeyTable → Thread → Prop where
  | reject {table : KeyTable} {call : Call} {error : DecryptError}
      (rejected : decryptor.beforeLock call = .error error) :
      Turn decryptor table .idle (.answer call call.ciphertext) table .idle
  | invoke {table : KeyTable} {call : Call} {bytes salt : Bytes}
      (accepted : decryptor.beforeLock call = .ok (bytes, salt)) :
      Turn decryptor table .idle (.invoke call) table (.waiting call bytes salt)
  | lock {table next : KeyTable} {call : Call} {bytes salt : Bytes}
      {key : Except DecryptError KakaoKey}
      (taken : decryptor.underLock salt table = (some key, next)) :
      Turn decryptor table (.waiting call bytes salt) (.locked call) next (.keyed call bytes key)
  | panic {table next : KeyTable} {call : Call} {bytes salt : Bytes}
      (taken : decryptor.underLock salt table = (none, next)) :
      Turn decryptor table (.waiting call bytes salt) (.locked call) next (.panicked call)
  | answer {table : KeyTable} {call : Call} {bytes : Bytes} {key : Except DecryptError KakaoKey} :
      Turn decryptor table (.keyed call bytes key)
        (.answer call (call.text (decryptor.afterLock bytes key))) table .idle

/-- Any number of threads with clones of one decryptor, whose table is empty at first. -/
def callSystem (decryptor : Decryptor) : System (Tasks KeyTable Thread) (Nat × CallEvent) :=
  Tasks.system (· = KeyTable.new) .idle (Turn decryptor)

/-! ## Every key in the table is the key of its salt -/

section Sound

variable {decryptor : Decryptor}

/-- The key of a salt, without the table. -/
def Decryptor.freshKey (decryptor : Decryptor) (salt : Bytes) : Except DecryptError KakaoKey :=
  (deriveKey decryptor.ciphers.sha1 salt).mapError .kdf

/-- The table holds derived keys only, and no thread panicked with the lock. -/
structure KeyTable.Sound (decryptor : Decryptor) (table : KeyTable) : Prop where
  derived : ∀ salt key, table.keys salt = some key →
    deriveKey decryptor.ciphers.sha1 salt = .ok key
  healthy : table.poisoned = false

/-- An empty cache holds no wrong key. -/
theorem KeyTable.sound_new (decryptor : Decryptor) : KeyTable.new.Sound decryptor where
  derived := by
    intro salt key found
    cases found
  healthy := rfl

/-- A key that was derived for its salt may be put into the cache. -/
theorem KeyTable.Sound.insert {table : KeyTable} (sound : table.Sound decryptor) {salt : Bytes}
    {key : KakaoKey} (derived : deriveKey decryptor.ciphers.sha1 salt = .ok key) :
    (table.insert salt key).Sound decryptor where
  derived := by
    intro other otherKey held
    change Function.update table.keys salt (some key) other = some otherKey at held
    by_cases same : other = salt
    · subst same
      rw [Function.update_self, Option.some.injEq] at held
      rw [derived, held]
    · rw [Function.update_of_ne same] at held
      exact sound.derived other otherKey held
  healthy := sound.healthy

/-- The critical section ends with the key of the salt and keeps the table sound. -/
theorem Decryptor.underLock_spec {table : KeyTable} (sound : table.Sound decryptor) (salt : Bytes) :
    ∃ next, decryptor.underLock salt table = (some (decryptor.freshKey salt), next) ∧
      next.Sound decryptor := by
  rw [underLock, if_neg (Bool.eq_false_iff.mp sound.healthy), freshKey]
  cases found : table.keys salt with
  | some key =>
      rw [sound.derived salt key found]
      exact ⟨table, rfl, sound⟩
  | none =>
      rcases deriveKey_returns decryptor.ciphers.sha1 salt with ⟨key, derived⟩ | ⟨stack, failed⟩
      · rw [derived]
        exact ⟨table.insert salt key, rfl, sound.insert derived⟩
      · rw [failed]
        exact ⟨table, rfl, sound⟩

/-- `try_decrypt` without the table is its three parts, with a key derived for the call. -/
theorem Decryptor.tryDecrypt_eq (decryptor : Decryptor) (call : Call) :
    decryptor.tryDecrypt call.ciphertext call.enc (call.userId decryptor) =
      decryptor.beforeLock call >>= fun parts =>
        decryptor.afterLock parts.1 (decryptor.freshKey parts.2) := by
  unfold tryDecrypt beforeLock
  split
  · rfl
  · cases (decryptor.ciphers.decode call.ciphertext).mapError DecryptError.message with
    | error error => rfl
    | ok bytes =>
        simp only [bind, Except.bind]
        split
        · rfl
        · unfold key
          cases prefixes[call.enc.toNat]? <;> rfl

/-- What a call returns that derives its own key. -/
def Decryptor.answer (decryptor : Decryptor) : Call → String
  | .decrypt ciphertext enc => decryptor.decrypt ciphertext enc
  | .decryptForUser ciphertext enc userId => decryptor.decryptForUser ciphertext enc userId

/-- What a call answers is its text after decryption. -/
theorem Decryptor.answer_eq (call : Call) :
    decryptor.answer call = call.text
      (decryptor.tryDecrypt call.ciphertext call.enc (call.userId decryptor)) := by
  cases call <;> rfl

/-- A call that is rejected answers its ciphertext. -/
theorem Decryptor.answer_of_rejected {call : Call} {error : DecryptError}
    (rejected : decryptor.beforeLock call = .error error) :
    decryptor.answer call = call.ciphertext := by
  rw [answer_eq, tryDecrypt_eq, rejected]
  rfl

/-- A call that is not rejected answers what the key of its salt gives. -/
theorem Decryptor.answer_of_accepted {call : Call} {bytes salt : Bytes}
    (accepted : decryptor.beforeLock call = .ok (bytes, salt)) :
    decryptor.answer call = call.text (decryptor.afterLock bytes (decryptor.freshKey salt)) := by
  rw [answer_eq, tryDecrypt_eq, accepted]
  rfl

/-- With a sound table a call returns what it returns without one, and keeps the table sound. -/
theorem Decryptor.callWith_spec {table : KeyTable} (sound : table.Sound decryptor) (call : Call) :
    ∃ next, decryptor.callWith call table = (some (decryptor.answer call), next) ∧
      next.Sound decryptor := by
  cases result : decryptor.beforeLock call with
  | error error =>
      refine ⟨table, ?_, sound⟩
      rw [answer_of_rejected result, callWith, result]
  | ok parts =>
      obtain ⟨bytes, salt⟩ := parts
      obtain ⟨next, taken, kept⟩ := underLock_spec sound salt
      refine ⟨next, ?_, kept⟩
      rw [answer_of_accepted result, callWith, result]
      simp only [taken]
      rfl

/-- On a fresh decryptor. -/
theorem Decryptor.callWith_new (decryptor : Decryptor) (call : Call) :
    (decryptor.callWith call .new).1 = some (decryptor.answer call) := by
  obtain ⟨next, returned, -⟩ := callWith_spec (KeyTable.sound_new decryptor) call
  rw [returned]

/-- A thread is on its way to the answer of its call. -/
def Thread.Sound (decryptor : Decryptor) : Thread → Prop
  | .idle => True
  | .waiting call bytes salt => decryptor.beforeLock call = .ok (bytes, salt)
  | .keyed call bytes key => ∃ salt, decryptor.beforeLock call = .ok (bytes, salt) ∧
      key = decryptor.freshKey salt
  | .panicked _ => False

/-- A turn keeps the table and its thread sound. -/
theorem Turn.sound {table next : KeyTable} {thread after : Thread} {event : CallEvent}
    (turn : Turn decryptor table thread event next after) (sound : table.Sound decryptor)
    (own : thread.Sound decryptor) : next.Sound decryptor ∧ after.Sound decryptor := by
  cases turn with
  | reject _ => exact ⟨sound, trivial⟩
  | invoke accepted => exact ⟨sound, accepted⟩
  | @lock _ _ _ salt _ taken =>
      obtain ⟨after, result, kept⟩ := Decryptor.underLock_spec sound salt
      rw [result] at taken
      cases taken
      exact ⟨kept, salt, own, rfl⟩
  | @panic _ _ _ salt taken =>
      obtain ⟨after, result, kept⟩ := Decryptor.underLock_spec sound salt
      rw [result] at taken
      cases taken
  | answer => exact ⟨sound, trivial⟩

/-- The answer of a sound thread is that of a fresh decryptor. -/
theorem Turn.answer_eq {table next : KeyTable} {thread after : Thread} {call : Call}
    {text : String} (turn : Turn decryptor table thread (.answer call text) next after)
    (own : thread.Sound decryptor) : text = decryptor.answer call := by
  cases turn with
  | reject rejected => exact (Decryptor.answer_of_rejected rejected).symm
  | answer =>
      obtain ⟨salt, accepted, rfl⟩ := own
      exact (Decryptor.answer_of_accepted accepted).symm

/-- So in every run the cache and the threads hold only right keys. -/
theorem callSystem_sound {trace : List (Nat × CallEvent)} {tasks : Tasks KeyTable Thread}
    (run : (callSystem decryptor).Runs trace tasks) :
    tasks.Holds (KeyTable.Sound decryptor) (fun _ => Thread.Sound decryptor) fun _ _ => True := by
  refine Tasks.invariant (fun _ _ _ => trivial) ?_ trivial ?_ run
  · rintro _ rfl
    exact ⟨KeyTable.sound_new decryptor, trivial⟩
  · intro table thread event next after sound own turn
    obtain ⟨kept, fits⟩ := turn.sound sound own
    exact ⟨kept, fits, fun _ other _ => ⟨other, trivial⟩⟩

end Sound

/-- However the calls of any number of threads interleave, each returns what it returns on a
fresh decryptor, and none panics. -/
theorem keyCache_transparent (decryptor : Decryptor) {trace : List (Nat × CallEvent)}
    {tasks : Tasks KeyTable Thread} (run : (callSystem decryptor).Runs trace tasks) :
    (∀ index call text, (index, .answer call text) ∈ trace →
      (decryptor.callWith call .new).1 = some text) ∧
    ∀ index call, tasks.task index ≠ .panicked call := by
  constructor
  · intro index call text member
    obtain ⟨before, earlier, next, reached, ⟨table, after, turn, -⟩, -⟩ := run.of_mem member
    rw [Decryptor.callWith_new, turn.answer_eq ((callSystem_sound reached).own index)]
  · intro index call panicked
    have own := (callSystem_sound run).own index
    rw [panicked] at own
    exact own

/-! ### Two calls with one salt -/

def cacheDecryptor : Decryptor where
  currentUserId := 5
  ciphers :=
    { decode := fun _ => .ok [1]
      aes256Cbc := fun _ _ _ => .ok [104, 105]
      sha1 := total fun _ => ⟨List.replicate 20 7, rfl⟩ }

def firstCall : Call := .decryptForUser "AQ==" 0 5
def secondCall : Call := .decrypt "AQ==" 1

/-- The numbers 0 and 1 have the same prefix. -/
def sharedSalt : Bytes := Decryptor.salt "" 5

/-- The second call of the example answers what its key gives. -/
theorem secondCall_text : secondCall.text
    (cacheDecryptor.afterLock [1] (cacheDecryptor.freshKey sharedSalt)) = "hi" := by
  obtain ⟨key, derived, -⟩ := deriveKey_eq_ok (fun _ => ⟨List.replicate 20 7, rfl⟩) sharedSalt
  have fresh : cacheDecryptor.freshKey sharedSalt = .ok key := by
    rw [Decryptor.freshKey, cacheDecryptor, derived]
    rfl
  rw [fresh]
  rfl

/-- Both calls wait for the lock; the second one finds the key that the first one derived. -/
theorem keyCache_transparent_sharedSalt :
    (cacheDecryptor.callWith secondCall .new).1 = some "hi" := by
  obtain ⟨table, taken, sound⟩ := Decryptor.underLock_spec (KeyTable.sound_new cacheDecryptor)
    sharedSalt
  obtain ⟨_, found, -⟩ := Decryptor.underLock_spec sound sharedSalt
  have start : (callSystem cacheDecryptor).Runs [] ⟨.new, fun _ => .idle⟩ := Tasks.start rfl
  have waiting := (start.turn 0 (@Turn.invoke _ _ firstCall _ _ rfl)).turn 1
    (@Turn.invoke _ _ secondCall _ _ rfl)
  have run := ((waiting.turn 0 (.lock taken)).turn 1 (.lock found)).turn 1 .answer
  rw [secondCall_text] at run
  exact (keyCache_transparent cacheDecryptor run).1 1 secondCall "hi" (by simp)

end Arisa.Crypto
