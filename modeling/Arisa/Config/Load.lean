import Arisa.Crypto.CryptoUser
import Arisa.Std.FileSystem

/-!
# The configuration of the server

`config.rs`, and what `main` makes of it before it serves: the databases that are
attached and the user that intents are sent to. A panic is an error with the text
of the failed `expect`.
-/

namespace Arisa.Config

open Arisa.Std Arisa.Crypto

/-- `env::var(name).ok()`. -/
abbrev Environment := String → Option String

/-- The text of a failed `expect`. -/
abbrev Panic := String

/-- `value.expect(message)`. -/
def expect {α : Type} (message : Panic) : Option α → Except Panic α
  | some value => .ok value
  | none => .error message

def defaultBind : String := "0.0.0.0:3000"
def defaultTempDir : String := "/sdcard/arisa_temp"

structure RuntimeConfig where
  bind : String
  appPath : String
  referer : String
  databaseKey : String
  tempDir : String
  uid : Option Int32
  callingPackage : String
  dbPullDelay : UInt64
  exitOnStdinClose : Bool
deriving DecidableEq

/-- A variable that is absent or blank, or one that must parse. -/
def optional {α : Type} (parse : List Char → Option α) (message : Panic) (env : Environment)
    (name : String) : Except Panic (Option α) :=
  match env name with
  | none => .ok none
  | some text =>
      let value := trim text.toList
      if value.isEmpty then .ok none else some <$> expect message (parse value)

def optionalI32 : Environment → String → Except Panic (Option Int32) :=
  optional parseI32 "invalid integer environment variable"

def optionalU64 : Environment → String → Except Panic (Option UInt64) :=
  optional parseU64 "invalid integer environment variable"

def optionalBool : Environment → String → Except Panic (Option Bool) :=
  optional parseBool "invalid boolean environment variable"

/-- The app directory of an Android user. -/
def userDirectory (uid : Int32) : String :=
  "/data_mirror/data_ce/null/" ++ toString uid.toInt ++ "/com.kakao.talk/"

/-- The app directory of the user the server itself runs as. -/
def ownDirectory : String := "/data/data/com.kakao.talk/"

def findAppPath (files : FileSystem) (uid : Option Int32) : Option String :=
  [ownDirectory, userDirectory (uid.getD 0), userDirectory 0].find? files.pathExists

def readNotificationReferer (files : FileSystem) (appPath : String) : Option String := do
  let content ← files.readToString (appPath ++ "/shared_prefs/KakaoTalk.hw.perferences.xml")
  let value ← secondPiece "<string name=\"NotificationReferer\">".toList content.toList
  return String.ofList (firstPiece "</string>".toList value)

section Load

variable (crypto : UserCrypto) (env : Environment) (files : FileSystem)

/-- `load` once the user and the app path are known. -/
def loadFrom (uid : Option Int32) (appPath : String) : Except Panic RuntimeConfig := do
  let referer ← expect "failed to read notification referer"
    (readNotificationReferer files appPath)
  let preferences ← expect "failed to read KakaoTalk preferences"
    (files.read (appPath ++ "/files/datastore/Feature_DataStore.pref.preferences_pb"))
  let seed ← expect "failed to read database seed" (crypto.extractDbSeed preferences)
  let databaseKey ← expect "failed to derive database key" (crypto.kdf seed)
  let dbPullDelay ← optionalU64 env "ARISA_DB_PULL_DELAY"
  let exitOnStdinClose ← optionalBool env "ARISA_EXIT_ON_STDIN_CLOSE"
  return {
    bind := (env "ARISA_BIND").getD defaultBind
    appPath := appPath
    referer := referer
    databaseKey := databaseKey
    tempDir := defaultTempDir
    uid := uid
    callingPackage :=
      ((env "ARISA_CALLING_PKG").filter fun value => ¬ isBlank value).getD "com.android.shell"
    dbPullDelay := dbPullDelay.getD 100
    exitOnStdinClose := exitOnStdinClose.getD true }

def load : Except Panic RuntimeConfig := do
  let uid ← optionalI32 env "ARISA_UID"
  let appPath ← expect "failed to find KakaoTalk app path" (findAppPath files uid)
  loadFrom crypto env files uid appPath

end Load

/-- The files `Database::open` attaches as `db1`, `db2` and `user`. -/
def attachedDatabases (appPath : String) : List String :=
  [appPath ++ "/databases/KakaoTalk.db", appPath ++ "/databases/KakaoTalk2.db",
    appPath ++ "/databases/crypto_user_database"]

structure AndroidHiddenApi where
  callingPackage : String
  /-- The `user_id` argument of every `startService` and `startActivity`. -/
  uid : Int32
deriving DecidableEq

/-- Without a user the intents go to `USER_CURRENT_OR_SELF`. -/
def AndroidHiddenApi.new (uid : Option Int32) (callingPackage : String) : AndroidHiddenApi :=
  ⟨callingPackage, uid.getD (-3)⟩

/-- What `main` starts with a configuration. -/
structure Startup where
  config : RuntimeConfig
  attached : List String
  api : AndroidHiddenApi
deriving DecidableEq

def Startup.of (config : RuntimeConfig) : Startup where
  config := config
  attached := attachedDatabases config.appPath
  api := AndroidHiddenApi.new config.uid config.callingPackage

def start (crypto : UserCrypto) (env : Environment) (files : FileSystem) : Except Panic Startup :=
  Startup.of <$> load crypto env files

end Arisa.Config
