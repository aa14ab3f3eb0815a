import Arisa.Control.Launch
import Arisa.Semantics.Interaction
import Mathlib.Data.List.DropRight

/-!
# The server on a device

`status`, `start`, `stop`, `install`, `remove` and `all_remove` of `arisa_control`, as
programs over what they have run. The device and the machine of the user may answer each
command as they like. `lifecycle_safe` says what no session does, and what the outcome of
a command is worth. The command `config` and its menu are in `Arisa.Control.Session`.
-/

namespace Arisa.Control.Lifecycle

open Arisa.Semantics.Interaction

/-! ### Commands and replies -/

/-- What the script has run: as root on the device, through `adb`, or beside itself. -/
inductive Call where
  /-- `pidof '$ARISA_PROCESS_NAME'` -/
  | pidof
  /-- `kill -s SIGKILL $pid` -/
  | kill (pid : List Char)
  /-- the command of `arisa_start` -/
  | start (command : List Char)
  /-- `test -x` and `test -e` of the binary -/
  | testBinary (operator : Char)
  | chmodBinary
  | rmBinary
  /-- `test -f` and `test -e` of the configuration file -/
  | testConfig (operator : Char)
  /-- `cat > '$ARISA_CONFIG_PATH'` with this input -/
  | writeConfig (text : List Char)
  | chmodConfig
  | catConfig
  | rmConfig
  /-- `pm path '$FILE_PROVIDER_PACKAGE'` -/
  | pmPath
  | appopsSet
  | appopsGet
  /-- `adb push` of the file to the path of the binary -/
  | push (file : List Char)
  /-- `adb install -r` -/
  | installApk (file : List Char)
  /-- `adb uninstall` of the file provider -/
  | uninstall
  | mktemp (template : String)
  /-- `rm -f` of a temporary file -/
  | discard (file : List Char)
  /-- `command -v` -/
  | which (tool : String)
  | fetch (tool url : String) (file : List Char)
deriving DecidableEq

/-- The exit status of a command, and what it prints. -/
structure Reply where
  succeeded : Bool
  output : List Char

@[reducible] def Call.Answer (_ : Call) : Type := Reply

/-- `$(...)`: null characters and the line breaks at the end are left out. -/
def substitution (output : List Char) : List Char :=
  (output.filter (· ≠ '\x00')).rdropWhile (· = '\n')

/-- `$(... | tr -d '\r')` -/
def Reply.value (reply : Reply) : List Char := substitution (reply.output.filter (· ≠ '\r'))

/-- `echo "$text"` without the line break; the shell takes some texts for its options. -/
def echo (text : List Char) : List Char :=
  match text with
  | '-' :: option => if option ≠ [] ∧ option.all "neE".toList.contains then [] else text
  | _ => text

/-- The process ids in a reply to `pidof`. -/
def Reply.pid (reply : Reply) : List Char := echo reply.value

/-- `[[ "$package_path" == package:* ]]` -/
def Reply.hasPackage (reply : Reply) : Bool := "package:".toList.isPrefixOf reply.value

/-- `[[ "$appop_mode" == *allow* ]]` -/
def Reply.allows (reply : Reply) : Bool := reply.value.tails.any "allow".toList.isPrefixOf

/-- `return 1` after the last message, or the last message. -/
abbrev Script := Fallible Call.Answer String

def ask (call : Call) : Script Reply := liftM (Program.request call : Program Call.Answer Reply)

/-- `if ! ...; then echo ...; return 1; fi` -/
def require (call : Call) (message : String) : Script Unit := do
  let reply ← ask call
  if reply.succeeded then return () else throw message

/-! ### The script -/

def arisaConfigPath : String := "/data/local/tmp/arisa_config.json"

def fileProviderPackage : String := "io.zugu.fileprovider"

def arisaReleaseBaseUrl : String := "https://github.com/huni-ee/arisa2/releases/latest/download"

def fileProviderApkUrl : String := arisaReleaseBaseUrl ++ "/fileprovider.apk"

/-- What `configure_arisa_for_device` finds out, and `$0`. -/
structure Target where
  deviceArch : String
  assetName : String
  invoked : String

def Target.binaryPath (target : Target) : String := String.ofList (arisaBinaryPath target.assetName)

def Target.binaryUrl (target : Target) : String := arisaReleaseBaseUrl ++ "/" ++ target.assetName

section Script

variable (isSpace : Char → Bool) (target : Target)

def getArisaPid : Script (List Char) := do
  let reply ← ask .pidof
  return reply.pid

def arisaStatus : Script String := do
  let pid ← getArisaPid
  if pid = [] then return "Arisa is not running."
  else return "Arisa is working. PID: " ++ String.ofList pid

def writeArisaConfig (config : ArisaConfig) : Script Unit := do
  require (.writeConfig (Control.writeArisaConfig config))
    ("Failed to write Arisa configuration: " ++ arisaConfigPath)
  require .chmodConfig ("Failed to set permissions on Arisa configuration: " ++ arisaConfigPath)

def ensureArisaConfig : Script Unit := do
  let there ← ask (.testConfig 'f')
  if there.succeeded then return () else writeArisaConfig defaultArisaConfig

def loadArisaConfig : Script ArisaConfig := do
  let shown ← ask .catConfig
  match Control.loadArisaConfig isSpace shown.output with
  | some config => return config
  | none => throw ("Failed to read Arisa configuration: " ++ arisaConfigPath)

/-- The value of `ARISA_ENV_PREFIX`. -/
def prepareArisaEnvironment : Script (List Char) := do
  ensureArisaConfig
  let config ← loadArisaConfig isSpace
  return config.envPrefix

def arisaStart : Script String := do
  let pid ← getArisaPid
  if pid ≠ [] then return "Arisa is already running. PID: " ++ String.ofList pid
  else do
    require (.testBinary 'x') ("Arisa is not installed at " ++ target.binaryPath ++ ".\nRun '" ++
      target.invoked ++ " install' first.")
    let envPrefix ← prepareArisaEnvironment isSpace
    let _ ← ask (.start (startCommand envPrefix (arisaBinaryPath target.assetName)))
    let newPid ← getArisaPid
    if newPid ≠ [] then return "Arisa service started. PID: " ++ String.ofList newPid
    else throw "Failed to start Arisa service."

def arisaStop : Script String := do
  let pid ← getArisaPid
  if pid = [] then return "Arisa is not running."
  else do
    let _ ← ask (.kill pid)
    let stoppedPid ← getArisaPid
    if stoppedPid = [] then return "Arisa service stopped."
    else throw ("Failed to stop Arisa service. PID " ++ String.ofList stoppedPid ++
      " is still running.")

/-- The download with `curl`, or else with `wget`. -/
def download (url : String) (file : List Char) (message : String) : Script Unit := do
  let curl ← ask (.which "curl")
  if curl.succeeded then require (.fetch "curl" url file) message
  else do
    let wget ← ask (.which "wget")
    if wget.succeeded then require (.fetch "wget" url file) message else throw message

/-- A temporary file is removed before the script gives up. -/
def orDiscard (file : List Char) (script : Script Unit) : Script Unit := do
  let outcome ← Fallible.attempt script
  match outcome with
  | .ok () => return ()
  | .error message => do
      let _ ← ask (.discard file)
      throw message

/-- The second half of `install_file_provider`: the package is there and may use the storage. -/
def allowExternalStorage : Script Unit := do
  let packagePath ← ask .pmPath
  if packagePath.hasPackage then do
    require .appopsSet
      ("Failed to grant MANAGE_EXTERNAL_STORAGE to " ++ fileProviderPackage ++ ".")
    let appopMode ← ask .appopsGet
    if appopMode.allows then return ()
    else throw ("MANAGE_EXTERNAL_STORAGE verification failed for " ++ fileProviderPackage ++ ".")
  else throw ("Installation verification failed for " ++ fileProviderPackage ++ ".")

def installFileProvider : Script Unit := do
  let made ← ask (.mktemp "fileprovider.XXXXXX.apk")
  if made.succeeded then do
    let apkFile := substitution made.output
    orDiscard apkFile (download fileProviderApkUrl apkFile "Failed to download fileprovider.apk.")
    orDiscard apkFile (require (.installApk apkFile) "Failed to install fileprovider.apk.")
    let _ ← ask (.discard apkFile)
    allowExternalStorage
  else throw "Failed to create a temporary file for fileprovider.apk."

def arisaInstall : Script String := do
  let made ← ask (.mktemp (target.assetName ++ ".XXXXXX"))
  if made.succeeded then do
    let localFile := substitution made.output
    orDiscard localFile (download target.binaryUrl localFile ("The Arisa release binary for " ++
      target.deviceArch ++ " was not found or could not be downloaded.\nURL: " ++
      target.binaryUrl))
    orDiscard localFile (require (.push localFile)
      "Failed to push Arisa to /data/local/tmp. Check the ADB connection and permissions.")
    orDiscard localFile (require .chmodBinary
      ("Failed to make " ++ target.binaryPath ++ " executable."))
    orDiscard localFile (require (.testBinary 'x')
      ("Installation verification failed: " ++ target.binaryPath))
    orDiscard localFile ensureArisaConfig
    let _ ← ask (.discard localFile)
    installFileProvider
    return "Installation completed successfully: " ++ target.binaryPath
  else throw "Failed to create a temporary download file."

/-- The second half of `arisa_remove`: the server was told to stop. -/
def removeBinary : Script String := do
  let there ← ask (.testBinary 'e')
  if there.succeeded then do
    require .rmBinary ("Failed to remove " ++ target.binaryPath ++ ".")
    let left ← ask (.testBinary 'e')
    if left.succeeded then
      throw ("Removal verification failed: " ++ target.binaryPath ++ " still exists.")
    else return "Arisa was removed successfully: " ++ target.binaryPath
  else return "Arisa is not installed: " ++ target.binaryPath

def arisaRemove : Script String := do
  let pid ← getArisaPid
  if pid = [] then removeBinary target
  else do
    let _ ← ask (.kill pid)
    removeBinary target

/-- The configuration file is gone. -/
def removeConfig : Script Bool := do
  let there ← ask (.testConfig 'e')
  if there.succeeded then do
    let removed ← ask .rmConfig
    if removed.succeeded then do
      let left ← ask (.testConfig 'e')
      return !left.succeeded
    else return false
  else return true

/-- The file provider is gone, and nothing failed on the way. -/
def removeFileProvider : Script Bool := do
  let packagePath ← ask .pmPath
  if packagePath.hasPackage then do
    let uninstalled ← ask .uninstall
    let packagePath ← ask .pmPath
    return uninstalled.succeeded && !packagePath.hasPackage
  else return true

def arisaAllRemove : Script String := do
  let removed ← Fallible.attempt (arisaRemove target)
  let config ← removeConfig
  let provider ← removeFileProvider
  if removed.isOk && config && provider then
    return "Arisa binary, configuration, and file provider were removed successfully."
  else throw "Some Arisa files or components could not be removed."

inductive Verb where
  | status
  | start
  | stop
  | install
  | remove
  | allRemove

def Verb.script : Verb → Script String
  | .status => arisaStatus
  | .start => arisaStart isSpace target
  | .stop => arisaStop
  | .install => arisaInstall target
  | .remove => arisaRemove target
  | .allRemove => arisaAllRemove target

/-- One command after the other, whatever comes of them. -/
def session : List Verb → Program Call.Answer Unit
  | [] => return ()
  | verb :: verbs => do
      let _ ← (verb.script isSpace target).run
      session verbs

end Script

/-! ### What a command may presuppose -/

abbrev Past := History Call.Answer

def Last (past : Past) (call : Call) (reply : Reply) : Prop :=
  past.getLast? = some ⟨call, reply⟩

def JustSucceeded (past : Past) (call : Call) : Prop :=
  ∃ reply : Reply, Last past call reply ∧ reply.succeeded = true

/-- The newest reply to a call. -/
def lastReply (past : Past) (call : Call) : Option Reply :=
  (past.reverse.find? fun event => event.call = call).map fun event => event.answer

def Call.isStart : Call → Bool
  | .start _ => true
  | _ => false

/-- `pidof` has found no server, and none was started since. -/
def NoServer (past : Past) : Prop :=
  ∃ earlier later, ∃ reply : Reply, past = earlier ++ ⟨.pidof, reply⟩ :: later ∧ reply.pid = [] ∧
    ∀ event ∈ later, event.call.isStart = false

/-- The temporary files after one more event. -/
def keepFiles (files : List (List Char)) (event : Event Call.Answer) : List (List Char) :=
  match event.call with
  | .mktemp _ =>
      if (event.answer : Reply).succeeded then substitution (event.answer : Reply).output :: files
      else files
  | .discard file => files.erase file
  | _ => files

/-- The temporary files that are there. -/
def files (past : Past) : List (List Char) := past.foldl keepFiles []

/-- What has to precede a call. Anything may be looked at, at any time. -/
def Allowed (isSpace : Char → Bool) (target : Target) (past : Past) : Call → Prop
  | .kill pid => pid ≠ [] ∧ ∃ reply : Reply, Last past .pidof reply ∧ reply.pid = pid
  | .start command =>
      NoServer past ∧ (lastReply past (.testBinary 'x')).any Reply.succeeded ∧
        ∃ reply config, Last past .catConfig reply ∧
          Control.loadArisaConfig isSpace reply.output = some config ∧
          command = startCommand config.envPrefix (arisaBinaryPath target.assetName)
  | .rmBinary => JustSucceeded past (.testBinary 'e')
  | .rmConfig => JustSucceeded past (.testConfig 'e')
  | .writeConfig text =>
      text = Control.writeArisaConfig defaultArisaConfig ∧
        ∃ reply : Reply, Last past (.testConfig 'f') reply ∧ reply.succeeded = false
  | .chmodConfig => ∃ text, JustSucceeded past (.writeConfig text)
  | .catConfig => JustSucceeded past (.testConfig 'f') ∨ JustSucceeded past .chmodConfig
  | .push file => ∃ tool, JustSucceeded past (.fetch tool target.binaryUrl file)
  | .chmodBinary => ∃ file, JustSucceeded past (.push file)
  | .installApk file => ∃ tool, JustSucceeded past (.fetch tool fileProviderApkUrl file)
  | .appopsSet => ∃ reply : Reply, Last past .pmPath reply ∧ reply.hasPackage
  | .appopsGet => JustSucceeded past .appopsSet
  | .uninstall => ∃ reply : Reply, Last past .pmPath reply ∧ reply.hasPackage
  | .fetch tool _ file => JustSucceeded past (.which tool) ∧ file ∈ files past
  | .discard file => file ∈ files past
  | .pidof | .testBinary _ | .testConfig _ | .pmPath | .mktemp _ | .which _ => True

/-- What the outcome of a command says about the device, by the newest replies. -/
def Verb.Reports (verb : Verb) (outcome : Except String String) (past : Past) : Prop :=
  let running := (lastReply past .pidof).any fun reply => reply.pid ≠ []
  let stopped := (lastReply past .pidof).any fun reply => reply.pid = []
  let noBinary := (lastReply past (.testBinary 'e')).any fun reply => !reply.succeeded
  let noConfig := (lastReply past (.testConfig 'e')).any fun reply => !reply.succeeded
  let noPackage := (lastReply past .pmPath).any fun reply => !reply.hasPackage
  match verb with
  | .status => outcome = .ok "Arisa is not running." ↔ stopped
  | .start => outcome.isOk ↔ running
  | .stop => outcome.isOk ↔ stopped
  | .install => outcome.isOk → (lastReply past (.testBinary 'x')).any Reply.succeeded ∧
      (lastReply past .pmPath).any Reply.hasPackage ∧
      (lastReply past .appopsGet).any Reply.allows
  | .remove => outcome.isOk ↔ noBinary
  | .allRemove => outcome.isOk → noBinary ∧ noConfig ∧ noPackage

/-- Between two starts, a look has found no server. -/
def StartsApart (past : Past) : Prop :=
  ∀ before middle after : Past, ∀ first second, ∀ reply answer : Reply,
    past = before ++ ⟨.start first, reply⟩ :: middle ++ ⟨.start second, answer⟩ :: after →
      ∃ look : Reply, ⟨.pidof, look⟩ ∈ middle ∧ look.pid = []

/-! ### Replies and temporary files -/

section Past

variable {isSpace : Char → Bool} {target : Target} {past : Past} {call : Call} {reply : Reply}

/-- The last event of a history that has just grown is the new one. -/
@[simp] theorem last_snoc {asked : Call} {answer : Reply} :
    Last (past ++ [⟨asked, answer⟩]) call reply ↔ asked = call ∧ answer = reply := by
  rw [Last, List.getLast?_append_of_ne_nil _ (by simp), List.getLast?_singleton, Option.some.injEq,
    Event.mk.injEq]
  refine and_congr_right fun same => ?_
  subst same
  exact heq_iff_eq

/-- After one more event, what has just succeeded is that event or nothing. -/
@[simp] theorem justSucceeded_snoc {asked : Call} :
    JustSucceeded (past ++ [⟨asked, reply⟩]) call ↔ asked = call ∧ reply.succeeded = true := by
  simp [JustSucceeded]

/-- A new reply hides the older ones to the same call, and none to another. -/
@[simp] theorem lastReply_snoc (asked : Call) :
    lastReply (past ++ [⟨asked, reply⟩]) call =
      if asked = call then some reply else lastReply past call := by
  by_cases same : asked = call
  · simp [lastReply, same]
  · simp [lastReply, same]

/-- The reply just given is the newest to its call. -/
theorem lastReply_self : lastReply (past ++ [⟨call, reply⟩]) call = some reply := by
  rw [lastReply_snoc, if_pos rfl]

/-- The temporary files are counted event by event. -/
@[simp] theorem files_snoc (event : Event Call.Answer) :
    files (past ++ [event]) = keepFiles (files past) event := by
  simp [files]

/-- A device without a server stays without one until something is started. -/
theorem noServer_snoc {event : Event Call.Answer} (none : NoServer past)
    (other : event.call.isStart = false) : NoServer (past ++ [event]) := by
  obtain ⟨earlier, later, reply, rfl, empty, quiet⟩ := none
  refine ⟨earlier, later ++ [event], reply, by simp, empty, ?_⟩
  intro next member
  rcases List.mem_append.mp member with inside | last
  · exact quiet next inside
  · rw [List.mem_singleton.mp last]
    exact other

/-- An empty answer of `pidof` is what establishes that there is no server. -/
theorem noServer_pidof (empty : reply.pid = []) : NoServer (past ++ [⟨.pidof, reply⟩]) :=
  ⟨past, [], reply, rfl, empty, fun _ member => absurd member List.not_mem_nil⟩

/-- If no server runs after a start, a look has found it gone since. -/
theorem noServer_between {before middle : Past} {event : Event Call.Answer}
    (none : NoServer (before ++ event :: middle)) (first : event.call.isStart = true) :
    ∃ look : Reply, ⟨.pidof, look⟩ ∈ middle ∧ look.pid = [] := by
  obtain ⟨earlier, later, answer, same, empty, quiet⟩ := none
  rcases List.append_eq_append_iff.mp same with ⟨between, -, tail⟩ | ⟨between, -, tail⟩
  · cases between with
    | nil =>
        cases tail
        cases first
    | cons head rest =>
        cases tail
        exact ⟨answer, by simp, empty⟩
  · cases between with
    | nil =>
        cases tail
        cases first
    | cons head rest =>
        cases tail
        have other := quiet event (by simp)
        rw [other] at first
        cases first

/-- A session that starts a server only where it has seen none starts no second one beside it. -/
theorem startsApart_of_legal (legal : Legal (Allowed isSpace target) past) : StartsApart past := by
  rintro before middle after first second reply answer rfl
  have start : before ++ ⟨.start first, reply⟩ :: middle ++ [⟨.start second, answer⟩] <+:
      before ++ ⟨.start first, reply⟩ :: middle ++ ⟨.start second, answer⟩ :: after :=
    ⟨after, by simp⟩
  exact noServer_between (legal _ _ start).1 rfl

/-- A command that returns has succeeded, for the tests on `$?` in the guarantees. -/
theorem isOk_ok {α β : Type} (value : β) : (Except.ok value : Except α β).isOk = true := rfl

/-- A command that gives up has not. -/
theorem isOk_error {α β : Type} (error : α) : (Except.error error : Except α β).isOk = false := rfl

/-- The commands that are judged by one look, and what they look at. -/
inductive Verb.Looks : Verb → Call → Prop
  | status : Looks .status .pidof
  | start : Looks .start .pidof
  | stop : Looks .stop .pidof
  | remove : Looks .remove (.testBinary 'e')

/-- The outcome of such a command says what the look has found. -/
def Verb.Judges (verb : Verb) (outcome : Except String String) (reply : Reply) : Prop :=
  match verb with
  | .status => outcome = .ok "Arisa is not running." ↔ reply.pid = []
  | .start => outcome.isOk = true ↔ reply.pid ≠ []
  | .stop => outcome.isOk = true ↔ reply.pid = []
  | .remove => outcome.isOk = true ↔ reply.succeeded = false
  | .install | .allRemove => True

/-- The newest look is all that the outcome is held against. -/
theorem reports_iff {verb : Verb} {outcome : Except String String} (looks : verb.Looks call)
    (newest : lastReply past call = some reply) :
    verb.Reports outcome past ↔ verb.Judges outcome reply := by
  cases looks <;> simp [Verb.Reports, Verb.Judges, newest]

/-- A discarded file is counted no longer. -/
theorem keepFiles_discard (files : List (List Char)) (file : List Char) :
    keepFiles files ⟨.discard file, reply⟩ = files.erase file :=
  rfl

end Past

/-! ### Parts of the script -/

section Parts

variable {isSpace : Char → Bool} {target : Target} {past : Past} {call : Call}
  {allowed : Past → Call → Prop}

/-- A script that asks first: the call has to be allowed, and the rest to do for every reply. -/
theorem ensures_ask_bind {α : Type} {next : Reply → Script α}
    {post : Except String α → Past → Prop} :
    Program.Ensures allowed post (ask call >>= next).run past ↔
      allowed past call ∧ ∀ reply : Reply,
        Program.Ensures allowed post (next reply).run (past ++ [⟨call, reply⟩]) := by
  rw [ask, Fallible.ensures_lift_bind]
  exact Program.ensures_request

/-- A required command lets the script go on exactly if it succeeds. -/
theorem ensures_require {message : String} {post : Except String Unit → Past → Prop} :
    Program.Ensures allowed post (require call message).run past ↔
      allowed past call ∧ ∀ reply : Reply,
        (reply.succeeded = true → post (.ok ()) (past ++ [⟨call, reply⟩])) ∧
        (reply.succeeded = false → post (.error message) (past ++ [⟨call, reply⟩])) := by
  rw [require, ensures_ask_bind]
  refine and_congr_right fun _ => forall_congr' fun reply => ?_
  cases reply.succeeded with
  | true =>
      simp only [if_true, reduceCtorEq, true_implies, false_implies, and_true]
      exact Iff.rfl
  | false =>
      simp only [Bool.false_eq_true, if_false, true_implies, false_implies, true_and]
      exact Iff.rfl

/-- Whatever `pidof` prints, the script goes on with the process ids in it. -/
theorem ensures_getArisaPid_bind {α : Type} {next : List Char → Script α}
    {post : Except String α → Past → Prop} :
    Program.Ensures allowed post (getArisaPid >>= next).run past ↔
      allowed past .pidof ∧ ∀ reply : Reply,
        Program.Ensures allowed post (next reply.pid).run (past ++ [⟨.pidof, reply⟩]) := by
  rw [Fallible.ensures_bind, getArisaPid, ensures_ask_bind]
  exact Iff.rfl

/-- Calls that only look at the configuration file and put the default one there, or download. -/
def Call.isAside : Call → Bool
  | .testConfig 'f' | .writeConfig _ | .chmodConfig | .catConfig | .which _ | .fetch .. => true
  | _ => false

/-- Nothing else than such calls has been made. -/
def Aside (past later : Past) : Prop :=
  ∃ events, later = past ++ events ∧ ∀ event ∈ events, event.call.isAside = true

variable {later : Past}

/-- Making no call at all is keeping aside. -/
theorem Aside.refl (past : Past) : Aside past past :=
  ⟨[], by simp, fun _ member => absurd member List.not_mem_nil⟩

/-- One more call of the kind changes nothing about that. -/
theorem Aside.snoc {event : Event Call.Answer} (aside : Aside past later)
    (kind : event.call.isAside = true) : Aside past (later ++ [event]) := by
  obtain ⟨events, rfl, each⟩ := aside
  refine ⟨events ++ [event], by simp, fun next member => ?_⟩
  rcases List.mem_append.mp member with inside | last
  · exact each next inside
  · rw [List.mem_singleton.mp last]
    exact kind

/-- What no such event disturbs holds after any number of them. -/
theorem Aside.preserves (Kept : Past → Prop)
    (step : ∀ past, ∀ event : Event Call.Answer, event.call.isAside = true → Kept past →
      Kept (past ++ [event]))
    (aside : Aside past later) (kept : Kept past) : Kept later := by
  obtain ⟨events, rfl, each⟩ := aside
  induction events generalizing past with
  | nil => simpa using kept
  | cons event rest ih =>
      obtain ⟨first, others⟩ := List.forall_mem_cons.mp each
      rw [List.append_cons]
      exact ih (step past event first kept) others

/-- Calls of this kind start no server. -/
theorem Aside.noServer (aside : Aside past later) (none : NoServer past) : NoServer later := by
  refine Aside.preserves NoServer (fun past event kind none => noServer_snoc none ?_) aside none
  cases event with
  | mk call answer => cases call <;> simp_all [Call.isAside, Call.isStart]

/-- They leave the newest replies to all other calls as they were. -/
theorem Aside.lastReply_eq (aside : Aside past later) (other : call.isAside = false) :
    lastReply later call = lastReply past call := by
  refine Aside.preserves (fun now => lastReply now call = lastReply past call) ?_ aside rfl
  intro now event kind same
  have differs : event.call ≠ call := by
    rintro rfl
    rw [kind] at other
    cases other
  obtain ⟨asked, reply⟩ := event
  rw [lastReply_snoc, if_neg differs, same]

/-- They neither make nor discard temporary files. -/
theorem Aside.files_eq (aside : Aside past later) : files later = files past := by
  refine Aside.preserves (fun now => files now = files past) ?_ aside rfl
  intro now event kind same
  rw [files_snoc, ← same]
  obtain ⟨asked, reply⟩ := event
  cases asked <;> simp_all [Call.isAside, keepFiles]

/-- On success the last event shows that the configuration file is there, found or just written with
its permissions set. -/
theorem ensureArisaConfig_ensures :
    ensureArisaConfig.run.Ensures (Allowed isSpace target) (fun outcome later =>
      Aside past later ∧ match outcome with
        | .ok () => JustSucceeded later (.testConfig 'f') ∨ JustSucceeded later .chmodConfig
        | .error _ => True) past := by
  rw [ensureArisaConfig, ensures_ask_bind]
  refine ⟨trivial, fun there => ?_⟩
  have looked : Aside past (past ++ [⟨.testConfig 'f', there⟩]) := (Aside.refl past).snoc rfl
  cases found : there.succeeded with
  | true =>
      rw [if_pos rfl]
      exact ⟨looked, .inl (justSucceeded_snoc.mpr ⟨rfl, found⟩)⟩
  | false =>
      rw [if_neg Bool.false_ne_true, writeArisaConfig, Fallible.ensures_bind, ensures_require]
      refine ⟨⟨rfl, there, last_snoc.mpr ⟨rfl, rfl⟩, found⟩, fun written =>
        ⟨fun ok => ?_, fun _ => ?_⟩⟩
      · dsimp only
        rw [ensures_require]
        refine ⟨⟨_, justSucceeded_snoc.mpr ⟨rfl, ok⟩⟩, fun changed => ⟨fun ok => ?_, fun _ => ?_⟩⟩
        · exact ⟨(looked.snoc rfl).snoc rfl, .inr (justSucceeded_snoc.mpr ⟨rfl, ok⟩)⟩
        · exact ⟨(looked.snoc rfl).snoc rfl, trivial⟩
      · exact ⟨looked.snoc rfl, trivial⟩

/-- The same, as the commands around it need it: no temporary file is left behind either. -/
theorem ensureArisaConfig_step :
    ensureArisaConfig.run.Ensures (Allowed isSpace target) (fun outcome later =>
      files later = files past ∧ match outcome with
        | .ok () => Aside past later
        | .error _ => True) past := by
  refine ensureArisaConfig_ensures.mono fun outcome later met => ⟨met.1.files_eq, ?_⟩
  cases outcome with
  | ok value => exact met.1
  | error message => trivial

/-- A download that succeeds ends with the fetch of just this URL into just this file, so what is
installed next was fetched from there. -/
theorem download_ensures {url message : String} {file : List Char} (made : file ∈ files past) :
    (download url file message).run.Ensures (Allowed isSpace target) (fun outcome later =>
      files later = files past ∧ match outcome with
        | .ok () => Aside past later ∧ ∃ tool, JustSucceeded later (.fetch tool url file)
        | .error _ => True) past := by
  have fetched (tool : String) (now : Past) (aside : Aside past now)
      (there : JustSucceeded now (.which tool)) :
      (require (.fetch tool url file) message).run.Ensures (Allowed isSpace target)
        (fun outcome later => files later = files past ∧ match outcome with
          | .ok () => Aside past later ∧ ∃ tool, JustSucceeded later (.fetch tool url file)
          | .error _ => True) now := by
    rw [ensures_require]
    refine ⟨⟨there, aside.files_eq ▸ made⟩, fun reply => ⟨fun ok => ?_, fun _ => ?_⟩⟩
    · have fetched : Aside past (now ++ [⟨.fetch tool url file, reply⟩]) := aside.snoc rfl
      exact ⟨fetched.files_eq, fetched, tool, justSucceeded_snoc.mpr ⟨rfl, ok⟩⟩
    · exact ⟨(files_snoc _).trans aside.files_eq, trivial⟩
  rw [download, ensures_ask_bind]
  refine ⟨trivial, fun curl => ?_⟩
  cases found : curl.succeeded with
  | true =>
      rw [if_pos rfl]
      exact fetched "curl" _ ((Aside.refl past).snoc rfl) (justSucceeded_snoc.mpr ⟨rfl, found⟩)
  | false =>
      rw [if_neg Bool.false_ne_true, ensures_ask_bind]
      refine ⟨trivial, fun wget => ?_⟩
      have looked : Aside past (past ++ [⟨.which "curl", curl⟩] ++ [⟨.which "wget", wget⟩]) :=
        ((Aside.refl past).snoc rfl).snoc rfl
      cases found : wget.succeeded with
      | true =>
          rw [if_pos rfl]
          exact fetched "wget" _ looked (justSucceeded_snoc.mpr ⟨rfl, found⟩)
      | false =>
          rw [if_neg Bool.false_ne_true]
          exact ⟨looked.files_eq, trivial⟩

/-- A step that has to succeed. -/
theorem require_ensures {message : String} (permitted : Allowed isSpace target past call)
    (quiet : ∀ reply : Reply, keepFiles (files past) ⟨call, reply⟩ = files past) :
    (require call message).run.Ensures (Allowed isSpace target) (fun outcome later =>
      files later = files past ∧ match outcome with
        | .ok () => ∃ reply : Reply, later = past ++ [⟨call, reply⟩] ∧ reply.succeeded = true
        | .error _ => True) past := by
  rw [ensures_require]
  refine ⟨permitted, fun reply => ⟨fun ok => ?_, fun _ => ?_⟩⟩
  · exact ⟨(files_snoc _).trans (quiet reply), reply, rfl, ok⟩
  · exact ⟨(files_snoc _).trans (quiet reply), trivial⟩

/-- The temporary file is still there for what follows a step; if the script gives up, it is
gone. -/
theorem orDiscard_bind_ensures {α : Type} {file : List Char} {kept : List (List Char)}
    {script : Script Unit} {next : Unit → Script α} {fact : Past → Prop}
    {post : Except String α → Past → Prop} (made : files past = file :: kept)
    (gaveUp : ∀ message later, files later = kept → post (.error message) later)
    (step : script.run.Ensures (Allowed isSpace target) (fun outcome later =>
      files later = files past ∧ match outcome with
        | .ok () => fact later
        | .error _ => True) past)
    (goesOn : ∀ later, files later = file :: kept → fact later →
      (next ()).run.Ensures (Allowed isSpace target) post later) :
    (orDiscard file script >>= next).run.Ensures (Allowed isSpace target) post past := by
  rw [Fallible.ensures_bind, orDiscard, Fallible.ensures_bind, Fallible.ensures_attempt]
  refine step.mono fun outcome later met => ?_
  obtain ⟨same, met⟩ := met
  cases outcome with
  | ok value => exact goesOn later (same.trans made) met
  | error message =>
      dsimp only
      rw [ensures_ask_bind]
      have there : file ∈ files later := by simp [same, made]
      refine ⟨there, fun reply => gaveUp message _ ?_⟩
      rw [files_snoc, same, made, keepFiles_discard, List.erase_cons_head]

/-- The file provider is there and may use the storage. -/
def Provided (past : Past) : Prop :=
  (lastReply past .pmPath).any Reply.hasPackage = true ∧
    (lastReply past .appopsGet).any Reply.allows = true

/-- On success the package was seen on the device, with the storage granted to it. -/
theorem allowExternalStorage_ensures :
    allowExternalStorage.run.Ensures (Allowed isSpace target) (fun outcome later =>
      files later = files past ∧ match outcome with
        | .ok () => lastReply later (.testBinary 'x') = lastReply past (.testBinary 'x') ∧
            Provided later
        | .error _ => True) past := by
  rw [allowExternalStorage, ensures_ask_bind]
  refine ⟨trivial, fun packagePath => ?_⟩
  cases has : packagePath.hasPackage with
  | false =>
      rw [if_neg Bool.false_ne_true]
      exact ⟨files_snoc _, trivial⟩
  | true =>
      rw [if_pos rfl, Fallible.ensures_bind, ensures_require]
      refine ⟨⟨packagePath, last_snoc.mpr ⟨rfl, rfl⟩, has⟩, fun granted =>
        ⟨fun ok => ?_, fun _ => ⟨by simp only [files_snoc, keepFiles], trivial⟩⟩⟩
      dsimp only
      rw [ensures_ask_bind]
      refine ⟨justSucceeded_snoc.mpr ⟨rfl, ok⟩, fun appopMode => ?_⟩
      cases allows : appopMode.allows with
      | false =>
          rw [if_neg Bool.false_ne_true]
          exact ⟨by simp only [files_snoc, keepFiles], trivial⟩
      | true =>
          rw [if_pos rfl]
          refine ⟨by simp only [files_snoc, keepFiles], ?_, ?_, ?_⟩
          · simp only [lastReply_snoc, reduceCtorEq, if_false]
          · simp only [lastReply_snoc, reduceCtorEq, if_false, if_true, Option.any_some, has]
          · simp only [lastReply_snoc, if_true, Option.any_some, allows]

/-- Installing the file provider discards the package it has downloaded on every path, and succeeds
only with the provider seen on the device. -/
theorem installFileProvider_ensures :
    installFileProvider.run.Ensures (Allowed isSpace target) (fun outcome later =>
      files later = files past ∧ match outcome with
        | .ok () => lastReply later (.testBinary 'x') = lastReply past (.testBinary 'x') ∧
            Provided later
        | .error _ => True) past := by
  rw [installFileProvider, ensures_ask_bind]
  refine ⟨trivial, fun made => ?_⟩
  cases found : made.succeeded with
  | false =>
      rw [if_neg Bool.false_ne_true, Fallible.ensures_throw]
      exact ⟨by simp [keepFiles, found], trivial⟩
  | true =>
      have there : files (past ++ [⟨.mktemp "fileprovider.XXXXXX.apk", made⟩]) =
          substitution made.output :: files past := by simp [keepFiles, found]
      have gaveUp (message : String) (later : Past) (clean : files later = files past) :
          files later = files past ∧ True := ⟨clean, trivial⟩
      rw [if_pos rfl]
      refine orDiscard_bind_ensures there gaveUp (download_ensures (by simp [there]))
        fun later listed met => ?_
      obtain ⟨aside, tool, fetched⟩ := met
      have kept : lastReply later (.testBinary 'x') = lastReply past (.testBinary 'x') := by
        rw [aside.lastReply_eq rfl, lastReply_snoc, if_neg (by simp)]
      have permitted : Allowed isSpace target later (.installApk (substitution made.output)) :=
        ⟨tool, fetched⟩
      refine orDiscard_bind_ensures listed gaveUp (require_ensures permitted fun reply => rfl)
        fun now listed met => ?_
      obtain ⟨installed, rfl, -⟩ := met
      rw [ensures_ask_bind]
      refine ⟨by simp [Allowed, listed], fun discarded => ?_⟩
      refine allowExternalStorage_ensures.mono fun outcome last met => ⟨met.1.trans ?_, ?_⟩
      · rw [files_snoc, listed, keepFiles_discard, List.erase_cons_head]
      · cases outcome with
        | error message => trivial
        | ok value =>
            refine ⟨met.2.1.trans ?_, met.2.2⟩
            simp only [lastReply_snoc, reduceCtorEq, if_false, kept]

/-- `install` discards the binary it has downloaded on every path, failures of each later step
included. -/
theorem arisaInstall_ensures :
    (arisaInstall target).run.Ensures (Allowed isSpace target) (fun outcome later =>
      files later = files past ∧ Verb.install.Reports outcome later) past := by
  rw [arisaInstall, ensures_ask_bind]
  refine ⟨trivial, fun made => ?_⟩
  have failed (message : String) (later : Past) :
      Verb.install.Reports (.error message) later := fun ok => absurd ok Bool.false_ne_true
  cases found : made.succeeded with
  | false =>
      rw [if_neg Bool.false_ne_true, Fallible.ensures_throw]
      exact ⟨by simp [keepFiles, found], failed _ _⟩
  | true =>
      have there : files (past ++ [⟨.mktemp (target.assetName ++ ".XXXXXX"), made⟩]) =
          substitution made.output :: files past := by simp [keepFiles, found]
      have gaveUp (message : String) (later : Past) (clean : files later = files past) :
          files later = files past ∧ Verb.install.Reports (.error message) later :=
        ⟨clean, failed message later⟩
      rw [if_pos rfl]
      refine orDiscard_bind_ensures there gaveUp (download_ensures (by simp [there]))
        fun later listed met => ?_
      obtain ⟨-, tool, fetched⟩ := met
      have push : Allowed isSpace target later (.push (substitution made.output)) :=
        ⟨tool, fetched⟩
      refine orDiscard_bind_ensures listed gaveUp (require_ensures push fun reply => rfl)
        fun now listed met => ?_
      obtain ⟨pushed, rfl, ok⟩ := met
      have chmod : Allowed isSpace target
          (later ++ [⟨.push (substitution made.output), pushed⟩]) .chmodBinary :=
        ⟨substitution made.output, justSucceeded_snoc.mpr ⟨rfl, ok⟩⟩
      refine orDiscard_bind_ensures listed gaveUp (require_ensures chmod fun reply => rfl)
        fun now listed met => ?_
      obtain ⟨changed, rfl, -⟩ := met
      refine orDiscard_bind_ensures listed gaveUp (require_ensures trivial fun reply => rfl)
        fun now listed met => ?_
      obtain ⟨tested, rfl, executable⟩ := met
      refine orDiscard_bind_ensures listed gaveUp ensureArisaConfig_step fun now listed aside => ?_
      rw [ensures_ask_bind]
      refine ⟨by simp [Allowed, listed], fun discarded => ?_⟩
      rw [Fallible.ensures_bind]
      refine installFileProvider_ensures.mono fun outcome last met => ?_
      have clean : files last = files past := by
        rw [met.1, files_snoc, listed, keepFiles_discard, List.erase_cons_head]
      cases outcome with
      | error message => exact gaveUp message last clean
      | ok value =>
          refine ⟨clean, fun _ => ⟨?_, met.2.2⟩⟩
          rw [met.2.1, lastReply_snoc, if_neg (by simp), aside.lastReply_eq rfl, lastReply_snoc,
            if_pos rfl, Option.any_some, executable]

/-- The prefix it hands on comes from the configuration file as it was read last. -/
theorem prepareArisaEnvironment_ensures :
    (prepareArisaEnvironment isSpace).run.Ensures (Allowed isSpace target) (fun outcome later =>
      Aside past later ∧ match outcome with
        | .ok envPrefix => ∃ reply config, Last later .catConfig reply ∧
            Control.loadArisaConfig isSpace reply.output = some config ∧
            envPrefix = config.envPrefix
        | .error _ => True) past := by
  rw [prepareArisaEnvironment, Fallible.ensures_bind]
  refine ensureArisaConfig_ensures.mono fun outcome later met => ?_
  obtain ⟨aside, met⟩ := met
  cases outcome with
  | error message => exact ⟨aside, trivial⟩
  | ok value =>
      dsimp only
      rw [Fallible.ensures_bind, loadArisaConfig, ensures_ask_bind]
      refine ⟨met, fun shown => ?_⟩
      have read : Aside past (later ++ [⟨.catConfig, shown⟩]) := aside.snoc rfl
      cases loaded : Control.loadArisaConfig isSpace shown.output with
      | none => exact ⟨read, trivial⟩
      | some config => exact ⟨read, shown, config, last_snoc.mpr ⟨rfl, rfl⟩, loaded, rfl⟩

/-! ### The commands -/

/-- `status` looks once and changes nothing. -/
theorem arisaStatus_ensures :
    arisaStatus.run.Ensures (Allowed isSpace target) (fun outcome later =>
      files later = files past ∧ Verb.status.Reports outcome later) past := by
  rw [arisaStatus, ensures_getArisaPid_bind]
  refine ⟨trivial, fun found => ?_⟩
  by_cases stopped : found.pid = []
  · rw [if_pos stopped, Fallible.ensures_pure]
    exact ⟨files_snoc _, (reports_iff .status lastReply_self).mpr (by simp [Verb.Judges, stopped])⟩
  · rw [if_neg stopped, Fallible.ensures_pure]
    have other :
        "Arisa is working. PID: " ++ String.ofList found.pid ≠ "Arisa is not running." := by
      intro same
      have letters := congrArg String.toList same
      simp [String.toList_append] at letters
    refine ⟨files_snoc _, ?_⟩
    exact (reports_iff .status lastReply_self).mpr (by simp [Verb.Judges, stopped, other])

/-- `start` runs the server only after a look has found none, and believes only the look after
it. -/
theorem arisaStart_ensures :
    (arisaStart isSpace target).run.Ensures (Allowed isSpace target) (fun outcome later =>
      files later = files past ∧ Verb.start.Reports outcome later) past := by
  rw [arisaStart, ensures_getArisaPid_bind]
  refine ⟨trivial, fun found => ?_⟩
  by_cases stopped : found.pid = []
  · have failed (message : String) (later : Past) (clean : files later = files past)
        (newest : lastReply later .pidof = some found) :
        files later = files past ∧ Verb.start.Reports (.error message) later :=
      ⟨clean, (reports_iff .start newest).mpr (by simp [Verb.Judges, isOk_error, stopped])⟩
    rw [if_neg (not_not.mpr stopped), Fallible.ensures_bind, ensures_require]
    refine ⟨trivial, fun tested => ⟨fun executable => ?_, fun _ => ?_⟩⟩
    · dsimp only
      rw [Fallible.ensures_bind]
      refine prepareArisaEnvironment_ensures.mono fun outcome later met => ?_
      obtain ⟨aside, met⟩ := met
      have clean : files later = files past := by
        rw [aside.files_eq]
        simp only [files_snoc, keepFiles]
      have newest : lastReply later .pidof = some found := by
        rw [aside.lastReply_eq rfl, lastReply_snoc, if_neg (by simp), lastReply_self]
      cases outcome with
      | error message => exact failed message later clean newest
      | ok envPrefix =>
          obtain ⟨shown, config, last, loaded, rfl⟩ := met
          have quiet : NoServer later :=
            aside.noServer (noServer_snoc (noServer_pidof stopped) rfl)
          have installed : (lastReply later (.testBinary 'x')).any Reply.succeeded = true := by
            rw [aside.lastReply_eq rfl, lastReply_self, Option.any_some, executable]
          dsimp only
          rw [ensures_ask_bind]
          refine ⟨⟨quiet, installed, shown, config, last, loaded, rfl⟩, fun started => ?_⟩
          rw [ensures_getArisaPid_bind]
          refine ⟨trivial, fun new => ?_⟩
          by_cases stopped : new.pid = []
          · rw [if_neg (not_not.mpr stopped)]
            refine ⟨by simpa only [files_snoc, keepFiles] using clean, ?_⟩
            exact (reports_iff .start lastReply_self).mpr
              (by simp [Verb.Judges, isOk_error, stopped])
          · rw [if_pos stopped]
            refine ⟨by simpa only [files_snoc, keepFiles] using clean, ?_⟩
            exact (reports_iff .start lastReply_self).mpr (by simp [Verb.Judges, isOk_ok, stopped])
    · refine failed _ _ (by simp only [files_snoc, keepFiles]) ?_
      rw [lastReply_snoc, if_neg (by simp), lastReply_self]
  · rw [if_pos stopped, Fallible.ensures_pure]
    refine ⟨files_snoc _, ?_⟩
    exact (reports_iff .start lastReply_self).mpr (by simp [Verb.Judges, isOk_ok, stopped])

/-- `stop` kills the process it has just seen, and believes only the look after it. -/
theorem arisaStop_ensures :
    arisaStop.run.Ensures (Allowed isSpace target) (fun outcome later =>
      files later = files past ∧ Verb.stop.Reports outcome later) past := by
  rw [arisaStop, ensures_getArisaPid_bind]
  refine ⟨trivial, fun found => ?_⟩
  by_cases stopped : found.pid = []
  · rw [if_pos stopped, Fallible.ensures_pure]
    refine ⟨files_snoc _, ?_⟩
    exact (reports_iff .stop lastReply_self).mpr (by simp [Verb.Judges, isOk_ok, stopped])
  · rw [if_neg stopped, ensures_ask_bind]
    refine ⟨⟨stopped, found, last_snoc.mpr ⟨rfl, rfl⟩, rfl⟩, fun killed => ?_⟩
    rw [ensures_getArisaPid_bind]
    refine ⟨trivial, fun left => ?_⟩
    by_cases stopped : left.pid = []
    · rw [if_pos stopped]
      refine ⟨by simp only [files_snoc, keepFiles], ?_⟩
      exact (reports_iff .stop lastReply_self).mpr (by simp [Verb.Judges, isOk_ok, stopped])
    · rw [if_neg stopped]
      refine ⟨by simp only [files_snoc, keepFiles], ?_⟩
      exact (reports_iff .stop lastReply_self).mpr (by simp [Verb.Judges, isOk_error, stopped])

/-- The binary counts as removed only if a last look does not find it. -/
theorem removeBinary_ensures :
    (removeBinary target).run.Ensures (Allowed isSpace target) (fun outcome later =>
      files later = files past ∧ Verb.remove.Reports outcome later) past := by
  rw [removeBinary, ensures_ask_bind]
  refine ⟨trivial, fun there => ?_⟩
  cases found : there.succeeded with
  | false =>
      rw [if_neg Bool.false_ne_true]
      refine ⟨files_snoc _, ?_⟩
      exact (reports_iff .remove lastReply_self).mpr (by simp [Verb.Judges, isOk_ok, found])
  | true =>
      rw [if_pos rfl, Fallible.ensures_bind, ensures_require]
      refine ⟨justSucceeded_snoc.mpr ⟨rfl, found⟩, fun removed => ⟨fun ok => ?_, fun _ => ?_⟩⟩
      · dsimp only
        rw [ensures_ask_bind]
        refine ⟨trivial, fun left => ?_⟩
        cases remains : left.succeeded with
        | true =>
            rw [if_pos rfl]
            refine ⟨by simp only [files_snoc, keepFiles], ?_⟩
            exact (reports_iff .remove lastReply_self).mpr
              (by simp [Verb.Judges, isOk_error, remains])
        | false =>
            rw [if_neg Bool.false_ne_true]
            refine ⟨by simp only [files_snoc, keepFiles], ?_⟩
            exact (reports_iff .remove lastReply_self).mpr (by simp [Verb.Judges, isOk_ok, remains])
      · refine ⟨by simp only [files_snoc, keepFiles], ?_⟩
        have newest : lastReply (past ++ [⟨.testBinary 'e', there⟩] ++ [⟨.rmBinary, removed⟩])
            (.testBinary 'e') = some there := by
          rw [lastReply_snoc, if_neg (by simp), lastReply_self]
        exact (reports_iff .remove newest).mpr (by simp [Verb.Judges, isOk_error, found])

/-- `remove` kills a server that is there, and then removes the binary whatever came of that. -/
theorem arisaRemove_ensures :
    (arisaRemove target).run.Ensures (Allowed isSpace target) (fun outcome later =>
      files later = files past ∧ Verb.remove.Reports outcome later) past := by
  rw [arisaRemove, ensures_getArisaPid_bind]
  refine ⟨trivial, fun found => ?_⟩
  by_cases stopped : found.pid = []
  · rw [if_pos stopped]
    refine removeBinary_ensures.mono fun outcome later met => ⟨met.1.trans ?_, met.2⟩
    exact files_snoc _
  · rw [if_neg stopped, ensures_ask_bind]
    refine ⟨⟨stopped, found, last_snoc.mpr ⟨rfl, rfl⟩, rfl⟩, fun killed => ?_⟩
    refine removeBinary_ensures.mono fun outcome later met => ⟨met.1.trans ?_, met.2⟩
    simp only [files_snoc, keepFiles]

/-- The configuration counts as gone only if the last look does not find it; the look at the binary
still stands. -/
theorem removeConfig_ensures :
    removeConfig.run.Ensures (Allowed isSpace target) (fun outcome later =>
      files later = files past ∧
        lastReply later (.testBinary 'e') = lastReply past (.testBinary 'e') ∧
        ∃ gone, outcome = .ok gone ∧ (gone = true →
          (lastReply later (.testConfig 'e')).any (fun reply => !reply.succeeded) = true))
      past := by
  rw [removeConfig, ensures_ask_bind]
  refine ⟨trivial, fun there => ?_⟩
  cases found : there.succeeded with
  | false =>
      rw [if_neg Bool.false_ne_true]
      refine ⟨files_snoc _, by rw [lastReply_snoc, if_neg (by simp)], true, rfl, fun _ => ?_⟩
      rw [lastReply_self, Option.any_some, found, Bool.not_false]
  | true =>
      rw [if_pos rfl, ensures_ask_bind]
      refine ⟨justSucceeded_snoc.mpr ⟨rfl, found⟩, fun removed => ?_⟩
      cases ok : removed.succeeded with
      | true =>
          rw [if_pos rfl, ensures_ask_bind]
          refine ⟨trivial, fun left => ⟨by simp only [files_snoc, keepFiles], ?_, _, rfl, ?_⟩⟩
          · simp only [lastReply_snoc, reduceCtorEq, if_false]
          · intro gone
            rw [lastReply_self, Option.any_some, gone]
      | false =>
          rw [if_neg Bool.false_ne_true]
          refine ⟨by simp only [files_snoc, keepFiles], ?_, false, rfl,
            fun gone => absurd gone Bool.false_ne_true⟩
          simp only [lastReply_snoc, reduceCtorEq, if_false]

/-- The same of the file provider, beside the looks at the binary and at the configuration. -/
theorem removeFileProvider_ensures :
    removeFileProvider.run.Ensures (Allowed isSpace target) (fun outcome later =>
      files later = files past ∧
        lastReply later (.testBinary 'e') = lastReply past (.testBinary 'e') ∧
        lastReply later (.testConfig 'e') = lastReply past (.testConfig 'e') ∧
        ∃ gone, outcome = .ok gone ∧ (gone = true →
          (lastReply later .pmPath).any (fun reply => !reply.hasPackage) = true)) past := by
  rw [removeFileProvider, ensures_ask_bind]
  refine ⟨trivial, fun there => ?_⟩
  cases found : there.hasPackage with
  | false =>
      rw [if_neg Bool.false_ne_true]
      refine ⟨files_snoc _, by rw [lastReply_snoc, if_neg (by simp)],
        by rw [lastReply_snoc, if_neg (by simp)], true, rfl, fun _ => ?_⟩
      rw [lastReply_self, Option.any_some, found, Bool.not_false]
  | true =>
      rw [if_pos rfl, ensures_ask_bind]
      refine ⟨⟨there, last_snoc.mpr ⟨rfl, rfl⟩, found⟩, fun uninstalled => ?_⟩
      rw [ensures_ask_bind]
      refine ⟨trivial, fun left => ⟨by simp only [files_snoc, keepFiles], ?_, ?_, _, rfl, ?_⟩⟩
      · simp only [lastReply_snoc, reduceCtorEq, if_false]
      · simp only [lastReply_snoc, reduceCtorEq, if_false]
      · intro gone
        rw [lastReply_self, Option.any_some]
        exact (Bool.and_eq_true_iff.mp gone).2

/-- `all_remove` goes on after each failure, and reports success only if all three looks find
nothing. -/
theorem arisaAllRemove_ensures :
    (arisaAllRemove target).run.Ensures (Allowed isSpace target) (fun outcome later =>
      files later = files past ∧ Verb.allRemove.Reports outcome later) past := by
  rw [arisaAllRemove, Fallible.ensures_bind, Fallible.ensures_attempt]
  refine arisaRemove_ensures.mono fun removed first binary => ?_
  dsimp only
  rw [Fallible.ensures_bind]
  refine removeConfig_ensures.mono fun outcome second config => ?_
  obtain ⟨configFiles, configBinary, noConfig, rfl, configGone⟩ := config
  dsimp only
  rw [Fallible.ensures_bind]
  refine removeFileProvider_ensures.mono fun outcome third provider => ?_
  obtain ⟨providerFiles, providerBinary, providerConfig, noProvider, rfl, providerGone⟩ := provider
  have clean : files third = files past := by rw [providerFiles, configFiles, binary.1]
  dsimp only
  cases all : removed.isOk && noConfig && noProvider with
  | false =>
      rw [if_neg Bool.false_ne_true]
      exact ⟨clean, fun ok => absurd ok Bool.false_ne_true⟩
  | true =>
      rw [if_pos rfl]
      simp only [Bool.and_eq_true] at all
      refine ⟨clean, fun _ => ⟨?_, ?_, providerGone all.2⟩⟩
      · rw [providerBinary, configBinary]
        exact binary.2.mp all.1.1
      · rw [providerConfig]
        exact configGone all.1.2

/-! ### Sessions -/

/-- Every command makes legal calls only, ends without temporary files of its own, and reports what
the device last showed. -/
theorem script_ensures (verb : Verb) :
    (verb.script isSpace target).run.Ensures (Allowed isSpace target) (fun outcome later =>
      files later = files past ∧ verb.Reports outcome later) past := by
  cases verb with
  | status => exact arisaStatus_ensures
  | start => exact arisaStart_ensures
  | stop => exact arisaStop_ensures
  | install => exact arisaInstall_ensures
  | remove => exact arisaRemove_ensures
  | allRemove => exact arisaAllRemove_ensures

/-- So does every sequence of commands, whatever comes of the earlier ones. -/
theorem session_ensures (verbs : List Verb) :
    (session isSpace target verbs).Ensures (Allowed isSpace target)
      (fun _ later => files later = files past) past := by
  induction verbs generalizing past with
  | nil => exact rfl
  | cons verb verbs ih =>
      rw [session, Program.ensures_bind]
      exact (script_ensures verb).mono fun outcome later met =>
        ih.mono fun _ last same => same.trans met.1

/-- Whatever commands were given before and however the device answers: a command has only run
what it may, no second server is started without a look in between that found none, no temporary
file is left behind, and what it reports is what the newest replies say. -/
theorem lifecycle_safe (isSpace : Char → Bool) (target : Target) (platform : Platform Call.Answer)
    (verbs : List Verb) (verb : Verb) :
    let past := ((session isSpace target verbs).run platform []).2
    let result := (verb.script isSpace target).run.run platform past
    Legal (Allowed isSpace target) result.2 ∧ StartsApart result.2 ∧ files result.2 = [] ∧
      verb.Reports result.1 result.2 := by
  intro past result
  obtain ⟨legal, clean⟩ :=
    Program.run_of_ensures platform (session_ensures verbs : Program.Ensures
      (Allowed isSpace target) (fun _ later => files later = files []) _ []) legal_nil
  obtain ⟨legal, same, reports⟩ :=
    Program.run_of_ensures platform (script_ensures verb : Program.Ensures
      (Allowed isSpace target) (fun outcome later => files later = files past ∧
        verb.Reports outcome later) _ past) legal
  exact ⟨legal, startsApart_of_legal legal, same.trans clean, reports⟩

end Parts

end Arisa.Control.Lifecycle
