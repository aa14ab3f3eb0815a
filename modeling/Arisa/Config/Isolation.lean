import Arisa.Config.Load
import Arisa.Semantics.Footprint
import Arisa.Std.Except

/-!
# Isolation of Android users

A start for a user reads the app directory of that user alone, and sends its
intents to that user, exactly as long as no app directory stands at
`ownDirectory`, which `findAppPath` tries before the one of the user.
-/

namespace Arisa.Config

open Arisa.Std Arisa.Crypto Arisa.Semantics FileSystem

/-- Both file systems contain the app directory of the user, with the same contents. -/
structure SameUser (uid : Int32) (left right : FileSystem) : Prop where
  present : left.pathExists (userDirectory uid)
  below : SameBelow (userDirectory uid) left right

/-- The directory of the user is there in both. -/
theorem SameUser.presentRight {uid : Int32} {left right : FileSystem}
    (same : SameUser uid left right) : right.pathExists (userDirectory uid) :=
  same.below.pathExists ▸ same.present

/-- `file` lies in the app directory of the user. -/
def BelongsTo (uid : Int32) (file : String) : Prop :=
  components (userDirectory uid) <+: components file

/-- Nothing is selected but what belongs to the user that intents are sent to. -/
structure Serves (uid : Int32) (startup : Startup) : Prop where
  intents : startup.api.uid = uid
  databases : ∀ file ∈ startup.attached, BelongsTo uid file

/-- Start-up is the same on both file systems, and all of it is of the user. -/
structure Isolated (crypto : UserCrypto) (env : Environment) (uid : Int32)
    (left right : FileSystem) : Prop where
  appPath : findAppPath left (some uid) = findAppPath right (some uid)
  own : ∀ path, findAppPath left (some uid) = some path →
    ∀ file ∈ attachedDatabases path, BelongsTo uid file
  startup : start crypto env left = start crypto env right
  serves : ∀ startup, start crypto env left = .ok startup → Serves uid startup

/-- The owner's directory is taken first, whatever user is set. -/
theorem findAppPath_own {files : FileSystem} (present : files.pathExists ownDirectory)
    (uid : Option Int32) : findAppPath files uid = some ownDirectory := by
  simp [findAppPath, present]

/-- The directory of the user that is set is taken only without the owner's. -/
theorem findAppPath_user {files : FileSystem} (absent : ¬ files.pathExists ownDirectory)
    {uid : Int32} (present : files.pathExists (userDirectory uid)) :
    findAppPath files (some uid) = some (userDirectory uid) := by
  simp [findAppPath, absent, present]

/-- Every attached file lies below the app path. -/
theorem components_attached {path file : String} (attached : file ∈ attachedDatabases path) :
    components path <+: components file := by
  simp only [attachedDatabases, List.mem_cons, List.not_mem_nil, or_false] at attached
  rcases attached with rfl | rfl | rfl
  all_goals
    rw [components_append rfl]
    exact List.prefix_append _ _

/-- The names on the way to the owner's directory. -/
theorem components_ownDirectory : components ownDirectory = ["data", "data", "com.kakao.talk"] := by
  decide

/-- The names of a user's directory start below `/data_mirror`. -/
theorem components_userDirectory (uid : Int32) :
    ∃ rest, components (userDirectory uid) = "data_mirror" :: rest := by
  have path : userDirectory uid =
      "/data_mirror" ++ ("/data_ce/null/" ++ toString uid.toInt ++ "/com.kakao.talk/") := by
    rw [String.append_assoc, ← String.append_assoc, ← String.append_assoc]
    rfl
  have slash : ("/data_ce/null/" ++ toString uid.toInt ++ "/com.kakao.talk/").toList =
      '/' :: ("data_ce/null/" ++ toString uid.toInt ++ "/com.kakao.talk/").toList := by
    simp only [String.toList_append]
    rfl
  have head : components "/data_mirror" = ["data_mirror"] := by decide
  rw [path, components_append slash, head]
  exact ⟨_, rfl⟩

/-- What lies in the directory at `ownDirectory` is of no user. -/
theorem not_belongsTo_own (uid : Int32) {file : String}
    (attached : file ∈ attachedDatabases ownDirectory) : ¬ BelongsTo uid file := by
  intro belongs
  obtain ⟨rest, names⟩ := components_userDirectory uid
  have own := components_attached attached
  unfold BelongsTo at belongs
  rw [names] at belongs
  rw [components_ownDirectory] at own
  obtain ⟨_, first⟩ := belongs
  obtain ⟨_, second⟩ := own
  rw [← first] at second
  simp at second

/-- No user's directory is the owner's. -/
theorem ownDirectory_ne_userDirectory (uid : Int32) : ownDirectory ≠ userDirectory uid := by
  intro same
  obtain ⟨rest, names⟩ := components_userDirectory uid
  rw [← same, components_ownDirectory] at names
  simp at names

/-- The referer is read below the directory of the application. -/
theorem readNotificationReferer_dependsOnly (appPath : String) :
    DependsOnly (SameBelow appPath) fun files => readNotificationReferer files appPath := by
  intro left right same
  have content : left.read (appPath ++ "/shared_prefs/KakaoTalk.hw.perferences.xml") =
      right.read (appPath ++ "/shared_prefs/KakaoTalk.hw.perferences.xml") := same.read rfl
  simp only [readNotificationReferer, readToString, content]

/-- `loadFrom` reads nothing outside the app path. -/
theorem loadFrom_dependsOnly (crypto : UserCrypto) (env : Environment) (uid : Option Int32)
    (appPath : String) :
    DependsOnly (SameBelow appPath) fun files => loadFrom crypto env files uid appPath := by
  unfold loadFrom
  refine .bind ?_ fun referer => .bind ?_ fun preferences => .const _
  · exact (readNotificationReferer_dependsOnly appPath).map _
  · refine DependsOnly.map ?_ _
    intro left right same
    exact same.read rfl

/-- A configuration that is loaded has the path and the user it was loaded for. -/
theorem loadFrom_eq_ok {crypto : UserCrypto} {env : Environment} {files : FileSystem}
    {uid : Option Int32} {appPath : String} {config : RuntimeConfig}
    (loaded : loadFrom crypto env files uid appPath = .ok config) :
    config.appPath = appPath ∧ config.uid = uid := by
  obtain ⟨referer, -, loaded⟩ := bind_eq_ok.mp loaded
  obtain ⟨preferences, -, loaded⟩ := bind_eq_ok.mp loaded
  obtain ⟨seed, -, loaded⟩ := bind_eq_ok.mp loaded
  obtain ⟨databaseKey, -, loaded⟩ := bind_eq_ok.mp loaded
  obtain ⟨dbPullDelay, -, loaded⟩ := bind_eq_ok.mp loaded
  obtain ⟨exitOnStdinClose, -, loaded⟩ := bind_eq_ok.mp loaded
  cases loaded
  exact ⟨rfl, rfl⟩

/-- A start for a user, once its app path is known. -/
theorem start_of_findAppPath {crypto : UserCrypto} {env : Environment} {files : FileSystem}
    {uid : Option Int32} {appPath : String} (set : optionalI32 env "ARISA_UID" = .ok uid)
    (found : findAppPath files uid = some appPath) :
    start crypto env files = Startup.of <$> loadFrom crypto env files uid appPath := by
  simp only [start, load, set, found, expect, bind, Except.bind]

/-- What a start for a user serves when the app path is the user's. -/
theorem serves_of_start {crypto : UserCrypto} {env : Environment} {files : FileSystem}
    {uid : Int32} {startup : Startup} (set : optionalI32 env "ARISA_UID" = .ok (some uid))
    (found : findAppPath files (some uid) = some (userDirectory uid))
    (started : start crypto env files = .ok startup) : Serves uid startup := by
  rw [start_of_findAppPath set found] at started
  obtain ⟨config, loaded, rfl⟩ := map_eq_ok.mp started
  obtain ⟨path, user⟩ := loadFrom_eq_ok loaded
  refine ⟨?_, ?_⟩
  · simp only [Startup.of, AndroidHiddenApi.new, user, Option.getD_some]
  · intro file attached
    simp only [Startup.of, path] at attached
    exact components_attached attached

/-- Start-up is isolated between two file systems with the same directory of the user
exactly when none of them has an app directory at `ownDirectory`. -/
theorem isolated_iff (crypto : UserCrypto) (env : Environment) {uid : Int32}
    (set : optionalI32 env "ARISA_UID" = .ok (some uid)) {left right : FileSystem}
    (same : SameUser uid left right) :
    Isolated crypto env uid left right ↔
      ¬ left.pathExists ownDirectory ∧ ¬ right.pathExists ownDirectory := by
  constructor
  · intro isolated
    have absent : ¬ left.pathExists ownDirectory := by
      intro present
      have own := isolated.own _ (findAppPath_own present _)
      exact not_belongsTo_own uid (List.mem_cons_self ..) (own _ (List.mem_cons_self ..))
    refine ⟨absent, ?_⟩
    intro present
    have paths := isolated.appPath
    rw [findAppPath_user absent same.present, findAppPath_own present, Option.some.injEq] at paths
    exact ownDirectory_ne_userDirectory uid paths.symm
  · rintro ⟨absentLeft, absentRight⟩
    have foundLeft := findAppPath_user absentLeft same.present
    have foundRight := findAppPath_user absentRight same.presentRight
    refine ⟨foundLeft.trans foundRight.symm, ?_, ?_, ?_⟩
    · intro path found file attached
      rw [foundLeft, Option.some.injEq] at found
      rw [← found] at attached
      exact components_attached attached
    · rw [start_of_findAppPath set foundLeft, start_of_findAppPath set foundRight]
      exact (loadFrom_dependsOnly crypto env (some uid) (userDirectory uid)).map
        (Startup.of <$> ·) left right same.below
    · intro startup started
      exact serves_of_start set foundLeft started

/-! ### A work profile beside the owner -/

/-- The stored `PreferenceMap` whose salt is `seed`. -/
def preferencesFile (seed : UInt8) : Bytes :=
  [0x0A, 26, 0x0A, 20] ++ "userDbPassPhraseSalt".toList.map (fun char => char.toNat.toUInt8) ++
    [0x12, 2, 0x20, seed]

def refererFile : Bytes :=
  "<map><string name=\"NotificationReferer\">talk</string></map>".toList.map
    fun char => char.toNat.toUInt8

def ownerKey : Bytes :=
  [161, 241, 77, 48, 58, 56, 27, 57, 20, 4, 252, 195, 100, 174, 157, 13, 101, 247, 21, 3, 72, 109,
    28, 174, 229, 65, 165, 24, 217, 124, 117, 204]

def profileKey : Bytes :=
  [158, 243, 100, 243, 160, 187, 128, 94, 63, 52, 242, 210, 220, 248, 215, 20, 9, 3, 65, 101, 57,
    81, 178, 195, 85, 154, 53, 228, 86, 170, 175, 92]

/-- The library functions at the two stored salts. -/
def exampleCrypto : UserCrypto where
  decode data :=
    if data = preferencesFile 5 then some ⟨[("userDbPassPhraseSalt", some (.long 5))]⟩
    else if data = preferencesFile 7 then some ⟨[("userDbPassPhraseSalt", some (.long 7))]⟩
    else none
  pbkdf2 _ salt _ _ :=
    if salt = UserCrypto.salt 5 then some ownerKey
    else if salt = UserCrypto.salt 7 then some profileKey
    else none

def profileEnv : Environment := fun name => if name = "ARISA_UID" then some "10" else none

def appFiles (directory : List String) (seed : UInt8) : List (List String × Bytes) :=
  [(directory ++ ["shared_prefs", "KakaoTalk.hw.perferences.xml"], refererFile),
    (directory ++ ["files", "datastore", "Feature_DataStore.pref.preferences_pb"],
      preferencesFile seed)]

def profileFiles : List (List String × Bytes) :=
  appFiles ["data_mirror", "data_ce", "null", "10", "com.kakao.talk"] 7

/-- The owner's directory, where the mirror has it. -/
def mirroredOwner : List (List String × Bytes) :=
  appFiles ["data_mirror", "data_ce", "null", "0", "com.kakao.talk"] 5

/-- The owner's directory, where `findAppPath` looks first. -/
def owner : List (List String × Bytes) :=
  appFiles ["data", "data", "com.kakao.talk"] 5

/-- Files of the owner that are mirrored elsewhere make no difference to user 10. -/
theorem isolated_mirroredOwner :
    Isolated exampleCrypto profileEnv 10 (ofFiles profileFiles)
      (ofFiles (profileFiles ++ mirroredOwner)) :=
  (isolated_iff exampleCrypto profileEnv (by decide)
    ⟨by decide, sameBelow_append (by decide)⟩).mpr ⟨by decide, by decide⟩

/-- What a start reads, and the user its intents go to. -/
def reach (startup : Startup) : String × String × Int32 :=
  (startup.config.appPath, startup.config.databaseKey, startup.api.uid)

/-- With the owner's directory in place, the intents of user 10 answer the owner's chats. -/
theorem owner_mixes :
    optionalI32 profileEnv "ARISA_UID" = .ok (some 10) ∧
      SameUser 10 (ofFiles profileFiles) (ofFiles (profileFiles ++ owner)) ∧
      (start exampleCrypto profileEnv (ofFiles profileFiles)).toOption.map reach =
        some (userDirectory 10, String.ofList (profileKey.flatMap UserCrypto.hexByte), 10) ∧
      (start exampleCrypto profileEnv (ofFiles (profileFiles ++ owner))).toOption.map reach =
        some (ownDirectory, String.ofList (ownerKey.flatMap UserCrypto.hexByte), 10) ∧
      ¬ Isolated exampleCrypto profileEnv 10 (ofFiles profileFiles)
        (ofFiles (profileFiles ++ owner)) := by
  refine ⟨by decide, ⟨by decide, sameBelow_append (by decide)⟩, by decide, by decide, ?_⟩
  intro isolated
  have paths := isolated.appPath
  revert paths
  decide

end Arisa.Config
