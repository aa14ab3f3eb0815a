import Arisa.Control.Session
import Arisa.Std.Shell

/-!
# How the control script starts the server

The command of `arisa_start` passes three shells: that of the device, the one that `su`
runs, and the one that outlives the connection. What each of them reads does not depend
on what the configuration file holds, except for the values of the variables.
-/

namespace Arisa.Control

open Arisa.Std Arisa.Std.Shell

/-- `run_adb_shell_as_root`: the text that the shell of the device is given. -/
def runAdbShellAsRoot (command : List Char) : List Char :=
  let escapedCommand := replaceAll '\'' "'\\''".toList command
  "su root sh -c '".toList ++ escapedCommand ++ "'".toList

/-- `ARISA_ASSET_NAME`, as `configure_arisa_for_device` chooses it. -/
def arisaAssetName (deviceArch : String) : Option String :=
  match deviceArch with
  | "armeabi-v7a" => some "arisa-armeabi-v7a"
  | "arm64-v8a" => some "arisa-arm64-v8a"
  | "x86" => some "arisa-x86"
  | "x86_64" => some "arisa-x86_64"
  | _ => none

def arisaBinaryPath (assetName : String) : List Char :=
  "/data/local/tmp/".toList ++ assetName.toList

/-- `ARISA_ENV_PREFIX`, as `prepare_arisa_environment` sets it. -/
def ArisaConfig.envPrefix (config : ArisaConfig) : List Char :=
  "ARISA_BIND=".toList ++ config.bind ++ " ARISA_UID=".toList ++ config.uid ++
    " ARISA_CALLING_PKG=".toList ++ config.callingPkg ++
    " ARISA_DB_PULL_DELAY=".toList ++ config.dbPullDelay

/-- It writes to the standard input of the server. -/
def feedLoop : List Char := "while true; do sleep 1; echo; done ".toList

/-- What the shell in the background is given. -/
def script (envPrefix binaryPath : List Char) : List Char :=
  feedLoop ++ "| ".toList ++ envPrefix ++ [' '] ++ binaryPath

/-- The command that `arisa_start` has run as root. -/
def startCommand (envPrefix binaryPath : List Char) : List Char :=
  "nohup sh -c '".toList ++ script envPrefix binaryPath ++ "' > /dev/null 2>&1 &".toList

/-- What `arisa_start` sends to the device when the server is installed and does not run yet:
nothing when the configuration file cannot be loaded. -/
def startLine (isSpace : Char → Bool) (deviceArch : String) (file : Option (List Char)) :
    Option (List Char) := do
  let assetName ← arisaAssetName deviceArch
  let config ← loadArisaConfig isSpace (ensureArisaConfig file)
  return runAdbShellAsRoot (startCommand config.envPrefix (arisaBinaryPath assetName))

/-! ### The shell of the device -/

/-- Whatever the command is, `su` is given the whole of it as one argument. -/
theorem parse_runAdbShellAsRoot (command : List Char) :
    parse (runAdbShellAsRoot command) =
      some ({ words := ["su", "root", "sh", "-c"].map String.toList ++ [command] }, []) := by
  have start : Reads .between "su root sh -c '".toList
      (["su", "root", "sh", "-c"].map fun text => .word (bare text.toList)) (.quoted []) := by
    decide
  have finish : Reads (.quoted (literal command)) "'".toList [] (.word (literal command)) := rfl
  have whole := (start.append (reads_replaced command [])).append finish
  have tokens : lex (runAdbShellAsRoot command) = some
      ((bare "su".toList :: (["root", "sh", "-c"].map (fun text => bare text.toList) ++
        [literal command])).map .word ++ []) :=
    (lex_of_reads whole (delimit_word _)).trans (by simp)
  rw [parse_words tokens (by decide) (by decide)]
  simp [simpleCommand]

/-! ### The shell that `su` runs -/

/-- It runs in the background without output, and outlives the connection. -/
theorem parse_startCommand {envPrefix binaryPath : List Char}
    (inside : '\'' ∉ script envPrefix binaryPath) :
    parse (startCommand envPrefix binaryPath) =
      some ({
        words := ["nohup", "sh", "-c"].map String.toList ++ [script envPrefix binaryPath]
        redirections := [⟨none, ">".toList, "/dev/null".toList⟩,
          ⟨some "2".toList, ">&".toList, "1".toList⟩] }, [.operator "&".toList]) := by
  have start : Reads .between "nohup sh -c '".toList
      (["nohup", "sh", "-c"].map fun text => .word (bare text.toList)) (.quoted []) := by
    decide
  have closed : Reads (.quoted (literal (script envPrefix binaryPath))) "' ".toList
      [.word (literal (script envPrefix binaryPath))] .between := rfl
  have finish : Reads .between "> /dev/null 2>&1 &".toList
      [.operator ">".toList, .word (bare "/dev/null".toList), .ioNumber "2".toList,
        .operator ">&".toList, .word (bare "1".toList)] (.operator "&".toList) := by
    decide
  have whole := (start.append (reads_quoted inside [])).append (closed.append finish)
  have tokens : lex (startCommand envPrefix binaryPath) = some
      ((bare "nohup".toList :: (["sh", "-c"].map (fun text => bare text.toList) ++
        [literal (script envPrefix binaryPath)])).map .word ++
        [.operator ">".toList, .word (bare "/dev/null".toList), .ioNumber "2".toList,
          .operator ">&".toList, .word (bare "1".toList), .operator "&".toList]) :=
    (lex_of_reads whole rfl).trans (by simp)
  rw [parse_words tokens (by decide) (by decide)]
  simp [simpleCommand, SimpleCommand.redirect, isRedirection]

/-! ### The shell in the background -/

/-- What the script's checks let through is ordinary to the shell. -/
theorem isOrdinary_of_isPlain {char : Char} (plain : isPlain char = true) :
    isOrdinary char = true := by
  have subset : ([':', '.', '_', '-'].all "_-.:/=,+@%".toList.contains) = true := by decide
  simp only [isPlain, isOrdinary, Bool.or_eq_true] at plain ⊢
  exact plain.imp_right fun listed =>
    List.all_eq_true.mp subset char (List.contains_iff_mem.mp listed)

/-- The assignments of the prefix, each with a blank after it. -/
theorem envPrefix_eq (config : ArisaConfig) :
    config.envPrefix ++ [' '] =
      config.variables.flatMap fun entry => assignmentText entry ++ [' '] := by
  have joined (bind uid callingPkg dbPullDelay : List Char) :
      (bind ++ ['=']) ++ config.bind ++ (' ' :: uid ++ ['=']) ++ config.uid ++
          (' ' :: callingPkg ++ ['=']) ++ config.callingPkg ++
          (' ' :: dbPullDelay ++ ['=']) ++ config.dbPullDelay ++ [' '] =
        (bind ++ '=' :: config.bind ++ [' ']) ++ ((uid ++ '=' :: config.uid ++ [' ']) ++
          ((callingPkg ++ '=' :: config.callingPkg ++ [' ']) ++
            ((dbPullDelay ++ '=' :: config.dbPullDelay ++ [' ']) ++ []))) := by simp
  exact joined "ARISA_BIND".toList "ARISA_UID".toList "ARISA_CALLING_PKG".toList
    "ARISA_DB_PULL_DELAY".toList

/-- The four names can be assigned to. -/
theorem variables_assignable (config : ArisaConfig) :
    ∀ entry ∈ config.variables, Assignable entry.1 := by
  simp only [ArisaConfig.variables, List.forall_mem_cons, List.not_mem_nil, false_implies,
    implies_true, and_true]
  decide

/-- The four names are ordinary characters all through. -/
theorem names_ordinary : ∀ name ∈ ["ARISA_BIND", "ARISA_UID", "ARISA_CALLING_PKG",
    "ARISA_DB_PULL_DELAY"], ∀ char ∈ name.toList, isOrdinary char = true := by
  have each : (["ARISA_BIND", "ARISA_UID", "ARISA_CALLING_PKG", "ARISA_DB_PULL_DELAY"].all
      fun name => name.toList.all isOrdinary) = true := by decide
  exact fun name listed => List.all_eq_true.mp (List.all_eq_true.mp each name listed)

/-- So each assignment is one unquoted word, whatever was loaded from the file. -/
theorem assignmentText_ordinary {isSpace : Char → Bool} {text : List Char} {config : ArisaConfig}
    (loaded : loadArisaConfig isSpace text = some config) :
    ∀ entry ∈ config.variables, ∀ char ∈ assignmentText entry, isOrdinary char = true := by
  intro entry listed char member
  rw [assignmentText, List.mem_append, List.mem_cons] at member
  rcases member with name | equals | value
  · exact names_ordinary entry.1 (List.mem_map_of_mem listed) char name
  · exact equals ▸ rfl
  · exact isOrdinary_of_isPlain (variables_plain loaded entry listed char value)

/-- A path as the script knows it. -/
structure PlainPath (path : List Char) : Prop where
  filled : path ≠ []
  ordinary : ∀ char ∈ path, isOrdinary char = true
  free : isReserved (bare path) = false
  without : '=' ∉ path

def assetNames : List String :=
  ["arisa-armeabi-v7a", "arisa-arm64-v8a", "arisa-x86", "arisa-x86_64"]

/-- The path of the binary needs no quotes either. -/
theorem arisaBinaryPath_plain {deviceArch assetName : String}
    (chosen : arisaAssetName deviceArch = some assetName) :
    PlainPath (arisaBinaryPath assetName) := by
  have listed : assetName ∈ assetNames := by
    unfold arisaAssetName at chosen
    split at chosen
    all_goals simp_all [assetNames]
  have each : (assetNames.all fun assetName =>
      let path := arisaBinaryPath assetName
      !path.isEmpty && path.all isOrdinary && !isReserved (bare path) && !path.contains '=') =
        true := by decide
  have here := List.all_eq_true.mp each assetName listed
  simp only [Bool.and_eq_true, Bool.not_eq_true', List.isEmpty_eq_false_iff, List.all_eq_true,
    List.contains_eq_mem, decide_eq_false_iff_not] at here
  obtain ⟨⟨⟨filled, ordinary⟩, free⟩, without⟩ := here
  exact ⟨filled, ordinary, free, without⟩

/-- The loop that feeds the server. -/
def feedTokens : List Token :=
  [.word (bare "while".toList), .word (bare "true".toList), .operator ";".toList,
    .word (bare "do".toList), .word (bare "sleep".toList), .word (bare "1".toList),
    .operator ";".toList, .word (bare "echo".toList), .operator ";".toList,
    .word (bare "done".toList)]

section Server

variable {isSpace : Char → Bool} {config : ArisaConfig} {binaryPath : List Char}

/-- The shell on the device reads the pipe's two commands, the second with its assignments in
front. -/
theorem lex_script
    (ordinary : ∀ entry ∈ config.variables, ∀ char ∈ assignmentText entry, isOrdinary char = true)
    (path : PlainPath binaryPath) :
    lex (script config.envPrefix binaryPath) = some (feedTokens ++ .operator "|".toList ::
      (config.variables.map (fun entry => .word (bare (assignmentText entry))) ++
        [.word (bare binaryPath)])) := by
  have start : Reads .between (feedLoop ++ "| ".toList)
      (feedTokens ++ [.operator "|".toList]) .between := by decide
  have whole := (start.append (reads_assignments ordinary)).append
    (reads_word path.filled path.ordinary)
  rw [← envPrefix_eq] at whole
  have read := lex_of_reads whole (delimit_word _)
  simpa [script] using read

/-- The variables are set for the server alone, and it is given no arguments. -/
theorem simpleCommand_server (path : PlainPath binaryPath) :
    simpleCommand {} (config.variables.map (fun entry => .word (bare (assignmentText entry))) ++
        [.word (bare binaryPath)]) =
      some ({ assignments := config.variables, words := [binaryPath] }, []) := by
  rw [simpleCommand_assignments (variables_assignable config) [], List.nil_append]
  have read := simpleCommand_words binaryPath path.free (assignment_of_not_mem path.without)
    config.variables [] []
  exact read.trans rfl

/-- No quotation mark is in the script, so it can be quoted as a whole. -/
theorem quote_not_mem_script
    (ordinary : ∀ entry ∈ config.variables, ∀ char ∈ assignmentText entry, isOrdinary char = true)
    (path : PlainPath binaryPath) : '\'' ∉ script config.envPrefix binaryPath := by
  have refused {text : List Char} (each : ∀ char ∈ text, isOrdinary char = true) :
      '\'' ∉ text := fun member => absurd (each '\'' member) (by decide)
  have fixed : '\'' ∉ feedLoop ++ "| ".toList := by decide
  have exports : '\'' ∉ config.envPrefix ++ [' '] := by
    rw [envPrefix_eq, List.mem_flatMap]
    rintro ⟨entry, listed, member⟩
    rcases List.mem_append.mp member with inside | after
    · exact refused (ordinary entry listed) inside
    · exact absurd after (by decide)
  rw [script, List.append_assoc _ config.envPrefix, List.mem_append, List.mem_append, not_or,
    not_or]
  exact ⟨⟨fixed, exports⟩, refused path.ordinary⟩

/-- What the assignments set is what was prepared. -/
theorem environment_variables (config : ArisaConfig) (name : String) :
    SimpleCommand.environment { assignments := config.variables, words := [binaryPath] } name =
      config.variables.lookup name := by
  have distinct : (config.variables.map Prod.fst).Nodup := by
    simp only [ArisaConfig.variables, List.map_cons, List.map_nil]
    decide
  exact environment_of_nodup { assignments := config.variables, words := [binaryPath] } distinct
    name

end Server

/-- Each of the three shells that `line` passes reads one command: `su` is given the whole of the
command, `nohup` the whole of the script, and the last one runs `server`. -/
def Launches (line : List Char) (server : SimpleCommand) : Prop :=
  ∃ command script tokens,
    parse line =
      some ({ words := ["su", "root", "sh", "-c"].map String.toList ++ [command] }, []) ∧
    parse command =
      some ({
        words := ["nohup", "sh", "-c"].map String.toList ++ [script]
        redirections := [⟨none, ">".toList, "/dev/null".toList⟩,
          ⟨some "2".toList, ">&".toList, "1".toList⟩] }, [.operator "&".toList]) ∧
    lex script = some (feedTokens ++ .operator "|".toList :: tokens) ∧
    simpleCommand {} tokens = some (server, [])

/-- What is launched is in the text. -/
theorem Launches.unique {line : List Char} {server other : SimpleCommand}
    (launches : Launches line server) (also : Launches line other) : server = other := by
  obtain ⟨command, script, tokens, outer, inner, last, read⟩ := launches
  obtain ⟨command', script', tokens', outer', inner', last', read'⟩ := also
  rw [outer] at outer'
  simp only [Option.some.injEq, Prod.mk.injEq, SimpleCommand.mk.injEq, List.append_cancel_left_eq,
    List.cons.injEq, true_and, and_true] at outer'
  rw [← outer', inner] at inner'
  simp only [Option.some.injEq, Prod.mk.injEq, SimpleCommand.mk.injEq, List.append_cancel_left_eq,
    List.cons.injEq, true_and, and_true] at inner'
  rw [← inner', last] at last'
  simp only [Option.some.injEq, List.append_cancel_left_eq, List.cons.injEq, true_and] at last'
  rw [← last', read] at read'
  simpa using read'

/-- The variables that the last shell sets for the server. Those it has inherited are left out. -/
def serverEnvironment (server : SimpleCommand) : Config.Environment :=
  fun name => (server.environment name).map String.ofList

/-- Of the four names the process sees the prepared values. -/
theorem serverEnvironment_variables (config : ArisaConfig) (binaryPath : List Char) :
    serverEnvironment { assignments := config.variables, words := [binaryPath] } =
      fun name => (config.variables.lookup name).map String.ofList := by
  funext name
  rw [serverEnvironment, environment_variables]

/-- What is launched for a configuration that was loaded. -/
theorem launches_of_startLine {isSpace : Char → Bool} {deviceArch : String}
    {file : Option (List Char)} {line : List Char}
    (started : startLine isSpace deviceArch file = some line) :
    ∃ config assetName, loadArisaConfig isSpace (ensureArisaConfig file) = some config ∧
      arisaAssetName deviceArch = some assetName ∧
      Launches line
        { assignments := config.variables, words := [arisaBinaryPath assetName] } := by
  obtain ⟨assetName, chosen, started⟩ := Option.bind_eq_some_iff.mp started
  obtain ⟨config, loaded, same⟩ := Option.bind_eq_some_iff.mp started
  cases same
  have path := arisaBinaryPath_plain chosen
  have ordinary := assignmentText_ordinary loaded
  exact ⟨config, assetName, loaded, chosen, _, _, _, parse_runAdbShellAsRoot _,
    parse_startCommand (quote_not_mem_script ordinary path), lex_script ordinary path,
    simpleCommand_server path⟩

/-- Whatever the configuration file holds, the three shells run the server with the environment
that was prepared, and nothing else. -/
theorem startLine_exports {isSpace : Char → Bool} {deviceArch : String}
    {file : Option (List Char)} {line : List Char}
    (started : startLine isSpace deviceArch file = some line) :
    ∃ server assetName, Launches line server ∧
      arisaAssetName deviceArch = some assetName ∧
      server.words = [arisaBinaryPath assetName] ∧ server.redirections = [] ∧
      prepareArisaEnvironment isSpace (ensureArisaConfig file) =
        some (serverEnvironment server) := by
  obtain ⟨config, assetName, loaded, chosen, launches⟩ := launches_of_startLine started
  refine ⟨_, assetName, launches, chosen, rfl, rfl, ?_⟩
  rw [prepareArisaEnvironment, loaded, Option.map_some, serverEnvironment_variables]

/-- The shells for a file that `config` has written. -/
theorem startLine_exports_written :
    ∃ line server assetName, startLine cSpace "arm64-v8a" (some writtenConfig) = some line ∧
      Launches line server ∧ arisaAssetName "arm64-v8a" = some assetName ∧
      server.words = [arisaBinaryPath assetName] ∧ server.redirections = [] ∧
      prepareArisaEnvironment cSpace (ensureArisaConfig (some writtenConfig)) =
        some (serverEnvironment server) := by
  obtain ⟨server, assetName, launches⟩ :=
    startLine_exports (show startLine cSpace "arm64-v8a" (some writtenConfig) = some _ from rfl)
  exact ⟨_, server, assetName, rfl, launches⟩

end Arisa.Control
