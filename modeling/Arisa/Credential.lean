import Arisa.Json
import Arisa.Proto
import Arisa.Std.Except
import Arisa.Std.FileSystem
import Arisa.Std.Occurrence

/-!
# The stored credential

`credential.rs` reads two files of the app directory. `Holds` describes the pairs
of files it accepts, and `FailsAt` what it says about the others, step by step.
-/

namespace Arisa.Credential

open Arisa.Proto Arisa.Std

/-- The library functions: base64, AES-256-CBC with a padding, and a JSON parser. Each gives its
error as text. -/
structure Libraries where
  ioError : String → String
  decode : Bytes → Except String Bytes
  decrypt : (key iv data : Bytes) → Except String Bytes
  fromSlice : Bytes → Except String Value

def aotIv : Bytes := [10, 2, 3, 252, 20, 73, 47, 218, 27, 234, 11, 236, 234, 37, 36, 54]

def aotKey : Bytes :=
  [67, 109, 141, 146, 233, 119, 33, 86, 157, 228, 154, 109, 183, 13, 43, 160, 109, 180, 91, 173,
    73, 242, 107, 168, 6, 11, 74, 109, 84, 188, 176, 15]

/-- `app_path.trim_end_matches('/')`. -/
def trimEndSlashes (appPath : String) : String :=
  String.ofList (appPath.toList.reverse.dropWhile (· = '/')).reverse

def preferencesPath (appPath : String) : String :=
  trimEndSlashes appPath ++ "/shared_prefs/KakaoTalk.hw.perferences.xml"

def aotPath (appPath : String) : String :=
  trimEndSlashes appPath ++ "/aot"

/-- `format!("failed to \x7bverb\x7d \x7bpath\x7d: \x7breason\x7d")`. -/
def failure (verb path reason : String) : String :=
  "failed to " ++ verb ++ " " ++ path ++ ": " ++ reason

/-- `ok_or_else`, and `map_err` where only the text of an error matters. -/
def okOr {α : Type} (message : String) : Option α → Except String α
  | some value => .ok value
  | none => .error message

def startTag (name : String) : List Char :=
  ("<string name=\"" ++ name ++ "\">").toList

def endTag : List Char := "</string>".toList

def extractXmlString (content name : String) : Option String :=
  (secondPiece (startTag name) content.toList).map fun value =>
    String.ofList (firstPiece endTag value)

def readLengthPrefixedPayload (data : Bytes) (path : String) : Except String Bytes :=
  if data.length < 2 then
    .error (failure "read" path "missing length header")
  else
    let encodedLen := BigEndian.toNat (data.take 2)
    let encodedEnd := 2 + encodedLen
    if encodedEnd ≤ data.length then
      .ok ((data.take encodedEnd).drop 2)
    else
      .error (failure "read" path ("length header " ++ toString encodedLen ++
        " exceeds file size " ++ toString data.length))

section Read

variable (libraries : Libraries) (files : FileSystem)

def readDeviceUuid (appPath : String) : Except String String := do
  let path := preferencesPath appPath
  let content ← okOr (failure "read" path (libraries.ioError path)) (files.readToString path)
  okOr (failure "read" path "missing d_id") (extractXmlString content "d_id")

/-- `json.get(name).and_then(Value::as_str)` or the error that it is missing. -/
def stringField (json : Value) (name path : String) : Except String String :=
  okOr (failure "parse" path ("missing " ++ name)) ((json.get name).bind Value.asStr)

def decryptAotFile (appPath : String) : Except String (String × String) := do
  let path := aotPath appPath
  let data ← okOr (failure "read" path (libraries.ioError path)) (files.read path)
  let encoded ← readLengthPrefixedPayload data path
  let ciphertext ← (libraries.decode encoded).mapError (failure "decode" path)
  let plaintext ← (libraries.decrypt aotKey aotIv ciphertext).mapError (failure "decrypt" path)
  let json ← (libraries.fromSlice plaintext).mapError (failure "parse" path)
  let accessToken ← stringField json "access_token" path
  let refreshToken ← stringField json "refresh_token" path
  return (accessToken, refreshToken)

def read (appPath : String) : Except String Credential := do
  let deviceUuid ← readDeviceUuid libraries files appPath
  let (accessToken, refreshToken) ← decryptAotFile libraries files appPath
  return ⟨accessToken, refreshToken, deviceUuid⟩

end Read

/-! ## What is accepted -/

/-- The content of the first element `name`, up to its end tag or the next such element. -/
def Element (content name value : String) : Prop :=
  ∃ before after rest, FirstAt (startTag name) content.toList before after ∧
    Piece (startTag name) after rest ∧ Piece endTag rest value.toList

/-- `ok_or_else` returns what was found. -/
theorem okOr_eq_ok {α : Type} {message : String} {found : Option α} {value : α} :
    okOr message found = .ok value ↔ found = some value := by
  cases found with
  | none => simp [okOr]
  | some other => simp [okOr]

/-- `ok_or_else` fails with its message where nothing was found. -/
theorem okOr_eq_error {α : Type} {message error : String} {found : Option α} :
    okOr message found = .error error ↔ found = none ∧ error = message := by
  cases found with
  | none => simp [okOr, eq_comm]
  | some other => simp [okOr]

/-- A start tag is not empty, so it has places where it is found. -/
theorem startTag_ne_nil (name : String) : startTag name ≠ [] := by
  intro empty
  have text := congrArg String.ofList empty
  rw [startTag, String.ofList_toList] at text
  have bytes := congrArg String.utf8ByteSize text
  simp at bytes

/-- What is extracted is the content of the element. -/
theorem extractXmlString_eq_some_iff {content name value : String} :
    extractXmlString content name = some value ↔ Element content name value := by
  rw [extractXmlString, Option.map_eq_some_iff]
  constructor
  · rintro ⟨rest, second, rfl⟩
    obtain ⟨before, after, first, piece⟩ :=
      (secondPiece_eq_some_iff (startTag_ne_nil name)).mp second
    refine ⟨before, after, rest, first, piece, ?_⟩
    rw [String.toList_ofList]
    exact (firstPiece_eq_iff (by decide)).mp rfl
  · rintro ⟨before, after, rest, first, piece, last⟩
    refine ⟨rest, (secondPiece_eq_some_iff (startTag_ne_nil name)).mpr
      ⟨before, after, first, piece⟩, ?_⟩
    rw [(firstPiece_eq_iff (by decide)).mpr last, String.ofList_toList]

/-- Nothing is extracted exactly where there is no such element. -/
theorem extractXmlString_eq_none_iff {content name : String} :
    extractXmlString content name = none ↔ ∀ value, ¬ Element content name value := by
  rw [Option.eq_none_iff_forall_ne_some]
  exact forall_congr' fun value => not_congr extractXmlString_eq_some_iff

/-- The file is the length in two bytes, that many bytes, and anything after them. -/
theorem readLengthPrefixedPayload_eq_ok_iff {data payload : Bytes} {path : String} :
    readLengthPrefixedPayload data path = .ok payload ↔
      payload.length < 2 ^ 16 ∧
        ∃ rest, data = BigEndian.ofNat 2 payload.length ++ payload ++ rest := by
  unfold readLengthPrefixedPayload
  constructor
  · intro accepted
    split at accepted
    · cases accepted
    · rename_i header
      dsimp only at accepted
      split at accepted
      · rename_i within
        cases accepted
        have two : (data.take 2).length = 2 := by
          rw [List.length_take]
          omega
        have bound := BigEndian.toNat_lt (data.take 2)
        have number := BigEndian.ofNat_toNat (data.take 2)
        rw [two] at bound number
        generalize BigEndian.toNat (data.take 2) = encodedLen at within bound number ⊢
        have length : ((data.take (2 + encodedLen)).drop 2).length = encodedLen := by
          rw [List.length_drop, List.length_take]
          omega
        have front : data.take 2 = (data.take (2 + encodedLen)).take 2 := by
          rw [List.take_take, Nat.min_eq_left (by omega)]
        refine ⟨by rw [length]; exact bound, data.drop (2 + encodedLen), ?_⟩
        rw [length, number, front, List.take_append_drop, List.take_append_drop]
      · cases accepted
  · rintro ⟨bound, rest, rfl⟩
    have header : (BigEndian.ofNat 2 payload.length).length = 2 := BigEndian.length_ofNat _ _
    have taken : (BigEndian.ofNat 2 payload.length ++ payload ++ rest).take 2 =
        BigEndian.ofNat 2 payload.length := by
      rw [List.append_assoc, List.take_left' header]
    have value : BigEndian.toNat (BigEndian.ofNat 2 payload.length) = payload.length := by
      rw [BigEndian.toNat_ofNat]
      exact Nat.mod_eq_of_lt bound
    have lengths : (BigEndian.ofNat 2 payload.length ++ payload ++ rest).length =
        2 + payload.length + rest.length := by
      rw [List.length_append, List.length_append, header]
    rw [if_neg (by omega)]
    dsimp only
    rw [taken, value, if_pos (by omega)]
    congr 1
    have whole : (BigEndian.ofNat 2 payload.length ++ payload).length = 2 + payload.length := by
      rw [List.length_append, header]
    rw [List.take_left' whole, List.drop_left' header]

/-- The file is refused when it has no length, or fewer bytes than its length says. -/
theorem readLengthPrefixedPayload_eq_error_iff {data : Bytes} {path message : String} :
    readLengthPrefixedPayload data path = .error message ↔
      data.length < 2 ∧ message = failure "read" path "missing length header" ∨
      ∃ encodedLen rest, encodedLen < 2 ^ 16 ∧ data = BigEndian.ofNat 2 encodedLen ++ rest ∧
        rest.length < encodedLen ∧
        message = failure "read" path ("length header " ++ toString encodedLen ++
          " exceeds file size " ++ toString data.length) := by
  unfold readLengthPrefixedPayload
  constructor
  · intro refused
    split at refused
    · rename_i short
      cases refused
      exact .inl ⟨short, rfl⟩
    · rename_i header
      dsimp only at refused
      split at refused
      · cases refused
      · rename_i beyond
        cases refused
        have two : (data.take 2).length = 2 := by
          rw [List.length_take]
          omega
        have bound := BigEndian.toNat_lt (data.take 2)
        have number := BigEndian.ofNat_toNat (data.take 2)
        rw [two] at bound number
        refine .inr ⟨_, data.drop 2, bound, ?_, ?_, rfl⟩
        · rw [number, List.take_append_drop]
        · rw [List.length_drop]
          omega
  · rintro (⟨short, rfl⟩ | ⟨encodedLen, rest, bound, rfl, short, rfl⟩)
    · rw [if_pos short]
    · have header : (BigEndian.ofNat 2 encodedLen).length = 2 := BigEndian.length_ofNat _ _
      have value : BigEndian.toNat (BigEndian.ofNat 2 encodedLen) = encodedLen := by
        rw [BigEndian.toNat_ofNat]
        exact Nat.mod_eq_of_lt bound
      have lengths : (BigEndian.ofNat 2 encodedLen ++ rest).length = 2 + rest.length := by
        rw [List.length_append, header]
      rw [if_neg (by omega)]
      dsimp only
      rw [List.take_left' header, value, if_neg (by omega)]

/-- A member of an object that is a text. -/
def TextMember (json : Value) (name value : String) : Prop :=
  ∃ members, json = .object members ∧ members.lookup name = some (.string value)

/-- A field is read exactly if it is there and a text. -/
theorem stringField_eq_ok_iff {json : Value} {name value path : String} :
    stringField json name path = .ok value ↔ TextMember json name value := by
  have found : (json.get name).bind Value.asStr = some value ↔ TextMember json name value := by
    cases json with
    | object members =>
        simp only [Value.get, TextMember, Value.object.injEq, exists_eq_left']
        cases members.lookup name with
        | none => simp
        | some member => cases member <;> simp [Value.asStr]
    | _ => simp [Value.get, TextMember]
  rw [← found, stringField, okOr_eq_ok]

/-- Otherwise the message names the file and the missing field. -/
theorem stringField_eq_error_iff {json : Value} {name path message : String} :
    stringField json name path = .error message ↔
      (∀ value, ¬ TextMember json name value) ∧
        message = failure "parse" path ("missing " ++ name) := by
  have missing : (json.get name).bind Value.asStr = none ↔
      ∀ value, ¬ TextMember json name value := by
    rw [Option.eq_none_iff_forall_ne_some]
    refine forall_congr' fun value => not_congr ?_
    rw [← @stringField_eq_ok_iff json name value path, stringField, okOr_eq_ok]
  rw [← missing, stringField, okOr_eq_error]

section Accepted

variable {libraries : Libraries} {files : FileSystem} {appPath : String}

/-- The files that hold a credential. -/
structure Holds (libraries : Libraries) (files : FileSystem) (appPath : String)
    (credential : Credential) : Prop where
  preferences : ∃ content, files.readToString (preferencesPath appPath) = some content ∧
    Element content "d_id" credential.deviceUuid
  aot : ∃ encoded rest ciphertext plaintext json,
    files.read (aotPath appPath) =
      some (BigEndian.ofNat 2 encoded.length ++ encoded ++ rest) ∧
    encoded.length < 2 ^ 16 ∧
    libraries.decode encoded = .ok ciphertext ∧
    libraries.decrypt aotKey aotIv ciphertext = .ok plaintext ∧
    libraries.fromSlice plaintext = .ok json ∧
    TextMember json "access_token" credential.accessToken ∧
    TextMember json "refresh_token" credential.refreshToken

/-- The device id is the element `d_id` of the preferences. -/
theorem readDeviceUuid_eq_ok_iff {deviceUuid : String} :
    readDeviceUuid libraries files appPath = .ok deviceUuid ↔
      ∃ content, files.readToString (preferencesPath appPath) = some content ∧
        Element content "d_id" deviceUuid := by
  simp only [readDeviceUuid, bind_eq_ok, okOr_eq_ok, extractXmlString_eq_some_iff]

/-- The tokens are read exactly if every layer of the file is in order: length, ciphertext, text and
fields. -/
theorem decryptAotFile_eq_ok_iff {accessToken refreshToken : String} :
    decryptAotFile libraries files appPath = .ok (accessToken, refreshToken) ↔
      ∃ encoded rest ciphertext plaintext json,
        files.read (aotPath appPath) =
          some (BigEndian.ofNat 2 encoded.length ++ encoded ++ rest) ∧
        encoded.length < 2 ^ 16 ∧
        libraries.decode encoded = .ok ciphertext ∧
        libraries.decrypt aotKey aotIv ciphertext = .ok plaintext ∧
        libraries.fromSlice plaintext = .ok json ∧
        TextMember json "access_token" accessToken ∧
        TextMember json "refresh_token" refreshToken := by
  simp only [decryptAotFile, bind_eq_ok, okOr_eq_ok, readLengthPrefixedPayload_eq_ok_iff,
    mapError_eq_ok, stringField_eq_ok_iff]
  constructor
  · rintro ⟨data, found, encoded, ⟨bound, rest, rfl⟩, ciphertext, decoded, plaintext, decrypted,
      json, parsed, access, hasAccess, refresh, hasRefresh, same⟩
    cases same
    exact ⟨encoded, rest, ciphertext, plaintext, json, found, bound, decoded, decrypted, parsed,
      hasAccess, hasRefresh⟩
  · rintro ⟨encoded, rest, ciphertext, plaintext, json, found, bound, decoded, decrypted, parsed,
      hasAccess, hasRefresh⟩
    exact ⟨_, found, encoded, ⟨bound, rest, rfl⟩, ciphertext, decoded, plaintext, decrypted,
      json, parsed, accessToken, hasAccess, refreshToken, hasRefresh, rfl⟩

/-- So the credential is read exactly if the files hold it. -/
theorem read_eq_ok {credential : Credential} :
    read libraries files appPath = .ok credential ↔
      Holds libraries files appPath credential := by
  rw [read, bind_eq_ok]
  constructor
  · rintro ⟨deviceUuid, found, decrypted⟩
    obtain ⟨⟨accessToken, refreshToken⟩, stored, same⟩ := bind_eq_ok.mp decrypted
    cases same
    exact ⟨readDeviceUuid_eq_ok_iff.mp found, decryptAotFile_eq_ok_iff.mp stored⟩
  · rintro ⟨preferences, aot⟩
    exact ⟨_, readDeviceUuid_eq_ok_iff.mpr preferences,
      bind_eq_ok.mpr ⟨_, decryptAotFile_eq_ok_iff.mpr aot, rfl⟩⟩

end Accepted

/-! ## What is said of the others -/

section Refused

variable (libraries : Libraries) (files : FileSystem)

/-- The file holds a payload behind its length. -/
def Payload (path : String) (encoded : Bytes) : Prop :=
  encoded.length < 2 ^ 16 ∧
    ∃ rest, files.read path = some (BigEndian.ofNat 2 encoded.length ++ encoded ++ rest)

/-- The payload of the file is decoded and decrypted to this text. -/
def Decrypts (path : String) (plaintext : Bytes) : Prop :=
  ∃ encoded ciphertext, Payload files path encoded ∧ libraries.decode encoded = .ok ciphertext ∧
    libraries.decrypt aotKey aotIv ciphertext = .ok plaintext

/-- The first step on the token file that fails, with the verb and the reason that are reported:
those before it have succeeded. -/
inductive AotFails (path : String) : (verb reason : String) → Prop
  | unreadable (absent : files.read path = none) : AotFails path "read" (libraries.ioError path)
  | headerMissing {data : Bytes} (found : files.read path = some data) (short : data.length < 2) :
      AotFails path "read" "missing length header"
  | tooShort {encodedLen : Nat} {rest : Bytes} (bound : encodedLen < 2 ^ 16)
      (found : files.read path = some (BigEndian.ofNat 2 encodedLen ++ rest))
      (short : rest.length < encodedLen) :
      AotFails path "read" ("length header " ++ toString encodedLen ++ " exceeds file size " ++
        toString (BigEndian.ofNat 2 encodedLen ++ rest).length)
  | undecodable {encoded : Bytes} {reason : String} (stored : Payload files path encoded)
      (fails : libraries.decode encoded = .error reason) : AotFails path "decode" reason
  | undecipherable {encoded ciphertext : Bytes} {reason : String}
      (stored : Payload files path encoded) (decoded : libraries.decode encoded = .ok ciphertext)
      (fails : libraries.decrypt aotKey aotIv ciphertext = .error reason) :
      AotFails path "decrypt" reason
  | unparsable {plaintext : Bytes} {reason : String}
      (decrypted : Decrypts libraries files path plaintext)
      (fails : libraries.fromSlice plaintext = .error reason) : AotFails path "parse" reason
  | accessMissing {plaintext : Bytes} {json : Value}
      (decrypted : Decrypts libraries files path plaintext)
      (parsed : libraries.fromSlice plaintext = .ok json)
      (missing : ∀ value, ¬ TextMember json "access_token" value) :
      AotFails path "parse" "missing access_token"
  | refreshMissing {plaintext : Bytes} {json : Value} {accessToken : String}
      (decrypted : Decrypts libraries files path plaintext)
      (parsed : libraries.fromSlice plaintext = .ok json)
      (access : TextMember json "access_token" accessToken)
      (missing : ∀ value, ¬ TextMember json "refresh_token" value) :
      AotFails path "parse" "missing refresh_token"

/-- The first step that fails, on either file. -/
inductive FailsAt (appPath : String) : (path verb reason : String) → Prop
  | unreadable (absent : files.readToString (preferencesPath appPath) = none) :
      FailsAt appPath (preferencesPath appPath) "read"
        (libraries.ioError (preferencesPath appPath))
  | uuidMissing {content : String}
      (found : files.readToString (preferencesPath appPath) = some content)
      (missing : ∀ value, ¬ Element content "d_id" value) :
      FailsAt appPath (preferencesPath appPath) "read" "missing d_id"
  | aot {content deviceUuid verb reason : String}
      (found : files.readToString (preferencesPath appPath) = some content)
      (uuid : Element content "d_id" deviceUuid)
      (fails : AotFails libraries files (aotPath appPath) verb reason) :
      FailsAt appPath (aotPath appPath) verb reason

variable {libraries files} {appPath message : String}

/-- If a layer fails, the message has the verb and the reason of that layer. -/
theorem decryptAotFile_eq_error_iff :
    decryptAotFile libraries files appPath = .error message ↔
      ∃ verb reason, AotFails libraries files (aotPath appPath) verb reason ∧
        message = failure verb (aotPath appPath) reason := by
  simp only [decryptAotFile, bind_eq_error, okOr_eq_ok, okOr_eq_error,
    readLengthPrefixedPayload_eq_ok_iff, readLengthPrefixedPayload_eq_error_iff, mapError_eq_ok,
    mapError_eq_error, stringField_eq_ok_iff, stringField_eq_error_iff]
  constructor
  · rintro (⟨absent, rfl⟩ | ⟨data, found, refused⟩)
    · exact ⟨_, _, .unreadable absent, rfl⟩
    rcases refused with
      (⟨short, rfl⟩ | ⟨encodedLen, rest, bound, rfl, short, rfl⟩) |
      ⟨encoded, ⟨bound, rest, rfl⟩, later⟩
    · exact ⟨_, _, .headerMissing found short, rfl⟩
    · exact ⟨_, _, .tooShort bound found short, rfl⟩
    have stored : Payload files (aotPath appPath) encoded := ⟨bound, rest, found⟩
    rcases later with ⟨reason, fails, rfl⟩ | ⟨ciphertext, decoded, later⟩
    · exact ⟨_, _, .undecodable stored fails, rfl⟩
    rcases later with ⟨reason, fails, rfl⟩ | ⟨plaintext, opened, later⟩
    · exact ⟨_, _, .undecipherable stored decoded fails, rfl⟩
    have decrypted : Decrypts libraries files (aotPath appPath) plaintext :=
      ⟨encoded, ciphertext, stored, decoded, opened⟩
    rcases later with ⟨reason, fails, rfl⟩ | ⟨json, parsed, later⟩
    · exact ⟨_, _, .unparsable decrypted fails, rfl⟩
    rcases later with ⟨missing, rfl⟩ | ⟨accessToken, access, later⟩
    · exact ⟨_, _, .accessMissing decrypted parsed missing, rfl⟩
    rcases later with ⟨missing, rfl⟩ | ⟨refreshToken, refresh, returned⟩
    · exact ⟨_, _, .refreshMissing decrypted parsed access missing, rfl⟩
    · cases returned
  · rintro ⟨_, _, fails, rfl⟩
    cases fails with
    | unreadable absent => exact .inl ⟨absent, rfl⟩
    | headerMissing found short => exact .inr ⟨_, found, .inl (.inl ⟨short, rfl⟩)⟩
    | tooShort bound found short =>
        exact .inr ⟨_, found, .inl (.inr ⟨_, _, bound, rfl, short, rfl⟩)⟩
    | undecodable stored fails =>
        obtain ⟨bound, rest, found⟩ := stored
        exact .inr ⟨_, found, .inr ⟨_, ⟨bound, rest, rfl⟩, .inl ⟨_, fails, rfl⟩⟩⟩
    | undecipherable stored decoded fails =>
        obtain ⟨bound, rest, found⟩ := stored
        exact .inr ⟨_, found, .inr ⟨_, ⟨bound, rest, rfl⟩,
          .inr ⟨_, decoded, .inl ⟨_, fails, rfl⟩⟩⟩⟩
    | unparsable decrypted fails =>
        obtain ⟨_, _, ⟨bound, rest, found⟩, decoded, opened⟩ := decrypted
        exact .inr ⟨_, found, .inr ⟨_, ⟨bound, rest, rfl⟩, .inr ⟨_, decoded,
          .inr ⟨_, opened, .inl ⟨_, fails, rfl⟩⟩⟩⟩⟩
    | accessMissing decrypted parsed missing =>
        obtain ⟨_, _, ⟨bound, rest, found⟩, decoded, opened⟩ := decrypted
        exact .inr ⟨_, found, .inr ⟨_, ⟨bound, rest, rfl⟩, .inr ⟨_, decoded,
          .inr ⟨_, opened, .inr ⟨_, parsed, .inl ⟨missing, rfl⟩⟩⟩⟩⟩⟩
    | refreshMissing decrypted parsed access missing =>
        obtain ⟨_, _, ⟨bound, rest, found⟩, decoded, opened⟩ := decrypted
        exact .inr ⟨_, found, .inr ⟨_, ⟨bound, rest, rfl⟩, .inr ⟨_, decoded,
          .inr ⟨_, opened, .inr ⟨_, parsed, .inr ⟨_, access, .inl ⟨missing, rfl⟩⟩⟩⟩⟩⟩⟩

/-- The message of the whole names the file, the verb and the reason of the first step that
fails. -/
theorem read_eq_error :
    read libraries files appPath = .error message ↔
      ∃ path verb reason, FailsAt libraries files appPath path verb reason ∧
        message = failure verb path reason := by
  have unread : read libraries files appPath = .error message ↔
      readDeviceUuid libraries files appPath = .error message ∨
      ∃ deviceUuid, readDeviceUuid libraries files appPath = .ok deviceUuid ∧
        decryptAotFile libraries files appPath = .error message := by
    rw [read, bind_eq_error]
    refine or_congr_right (exists_congr fun deviceUuid => and_congr_right fun _ => ?_)
    rw [bind_eq_error, or_iff_left]
    rintro ⟨_, _, returned⟩
    cases returned
  rw [unread]
  simp only [readDeviceUuid_eq_ok_iff, decryptAotFile_eq_error_iff]
  simp only [readDeviceUuid, bind_eq_error, okOr_eq_ok, okOr_eq_error, extractXmlString_eq_none_iff]
  constructor
  · rintro ((⟨absent, rfl⟩ | ⟨content, found, missing, rfl⟩) |
      ⟨deviceUuid, ⟨content, found, uuid⟩, verb, reason, fails, rfl⟩)
    · exact ⟨_, _, _, .unreadable absent, rfl⟩
    · exact ⟨_, _, _, .uuidMissing found missing, rfl⟩
    · exact ⟨_, _, _, .aot found uuid fails, rfl⟩
  · rintro ⟨_, _, _, fails, rfl⟩
    cases fails with
    | unreadable absent => exact .inl (.inl ⟨absent, rfl⟩)
    | uuidMissing found missing => exact .inl (.inr ⟨_, found, missing, rfl⟩)
    | aot found uuid fails => exact .inr ⟨_, ⟨_, found, uuid⟩, _, _, fails, rfl⟩

end Refused

/-- For every app directory the call returns a credential exactly when the two files hold it, and
an error exactly when a step on one of them fails: the message names that file, what was tried and
why it failed. -/
theorem read_exact (libraries : Libraries) (files : FileSystem) (appPath : String) :
    (∀ credential, read libraries files appPath = .ok credential ↔
      Holds libraries files appPath credential) ∧
    ∀ message, read libraries files appPath = .error message ↔
      ∃ path verb reason, FailsAt libraries files appPath path verb reason ∧
        message = failure verb path reason :=
  ⟨fun _ => read_eq_ok, fun _ => read_eq_error⟩

end Arisa.Credential
