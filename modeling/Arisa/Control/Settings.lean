import Arisa.Config.Isolation
import Arisa.Control.Launch

/-!
# The settings of a running server

The control script keeps the settings as texts, and the server reads numbers and an
address from the variables it is given. `settings_reach` says that a server that comes up
runs with the settings that the script has loaded.
-/

namespace Arisa.Control

open Arisa.Std Arisa.Std.Shell

variable {V6 : Type} (ipv6 : Reader V6)

/-- The server has taken over the settings. The address is bound after the start, if at all. -/
structure RunsWith (config : ArisaConfig) (startup : Config.Startup) : Prop where
  uid : ∃ uid, startup.config.uid = some uid ∧ uid.toInt = decimal config.uid
  userId : startup.api.uid.toInt = decimal config.uid
  callingPackage : startup.api.callingPackage = String.ofList config.callingPkg
  dbPullDelay : startup.config.dbPullDelay.toNat = decimal config.dbPullDelay
  pauses : 0 < startup.config.dbPullDelay.toNat
  exitOnStdinClose : startup.config.exitOnStdinClose = true
  bind : ∃ octets port, matchBind config.bind = some (octets, port) ∧
    ∀ address, parseSocketAddr ipv6 startup.config.bind.toList = some address →
      address = .v4 ⟨octets.map decimal, decimal port⟩

/-! ### What is read from a variable -/

/-- A variable that is set to a solid text is parsed. -/
theorem parsed_of_optional {α : Type} {parse : List Char → Option α} {message : Config.Panic}
    {env : Config.Environment} {name : String} {text : List Char} {result : Option α}
    (set : env name = some (String.ofList text)) (filled : text ≠ [])
    (solid : ∀ char ∈ text, isWhitespace char = false)
    (read : Config.optional parse message env name = .ok result) :
    ∃ value, result = some value ∧ parse text = some value := by
  have shown : text.isEmpty = false := List.isEmpty_eq_false_iff.mpr filled
  simp only [Config.optional, set, String.toList_ofList, trim_eq_self solid, shown,
    Bool.false_eq_true, if_false] at read
  obtain ⟨value, parsed, same⟩ := map_eq_ok.mp read
  refine ⟨value, same.symm, ?_⟩
  cases found : parse text with
  | none =>
      rw [found] at parsed
      cases parsed
  | some other =>
      rw [found] at parsed
      cases parsed
      rfl

/-- The server accepts no delay below zero, and the script passes on no delay of zero. -/
theorem delay_of_parseU64 {number : List Char} {delay : UInt64} (form : IsSignedDecimal number)
    (positive : isNotPositive number = false) (parsed : parseU64 number = some delay) :
    delay.toNat = decimal number ∧ 0 < delay.toNat := by
  cases form with
  | minus digits =>
      rw [parseU64_minus] at parsed
      cases parsed
  | plain digits =>
      have value := toNat_of_parseU64 digits parsed
      refine ⟨value, Nat.pos_of_ne_zero fun zero => ?_⟩
      rw [value] at zero
      rw [isNotPositive, parseSigned_decimal digits, zero] at positive
      simp at positive

/-- The digits of a valid address are read as they stand, or the server refuses them. -/
theorem address_of_isValidBind {value : List Char} (valid : isValidBind value = true) :
    ∃ octets port, matchBind value = some (octets, port) ∧
      ∀ address, parseSocketAddr ipv6 value = some address →
        address = .v4 ⟨octets.map decimal, decimal port⟩ := by
  cases matched : matchBind value with
  | none => simp [isValidBind, matched] at valid
  | some parts =>
      obtain ⟨octets, port⟩ := parts
      obtain ⟨first, others, rfl, four, numbers, portNumber, rfl⟩ := form_of_matchBind matched
      refine ⟨_, _, rfl, fun address parsed => ?_⟩
      rw [parseSocketAddr_eq ipv6 four numbers portNumber] at parsed
      split at parsed
      · cases parsed
        rfl
      · cases parsed

/-- No letter is white space. -/
theorem not_isWhitespace_of_isAlpha {char : Char} (letter : char.isAlpha = true) :
    isWhitespace char = false := by
  have range : 65 ≤ char.toNat ∧ char.toNat ≤ 122 := by
    rcases (Bool.or_eq_true _ _).mp letter with upper | lower
    · obtain ⟨low, high⟩ := of_decide_eq_true upper
      have low : 65 ≤ char.toNat := low
      have high : char.toNat ≤ 90 := high
      omega
    · obtain ⟨low, high⟩ := Bool.and_eq_true_iff.mp lower
      have low : 97 ≤ char.toNat := of_decide_eq_true low
      have high : char.toNat ≤ 122 := of_decide_eq_true high
      omega
  simp only [isWhitespace, Bool.or_eq_false_iff, Bool.and_eq_false_iff, decide_eq_false_iff_not,
    beq_eq_false_iff_ne]
  omega

/-- A valid package name is not blank: it begins with a letter. -/
theorem isBlank_of_isValidCallingPackage {value : List Char}
    (valid : isValidCallingPackage value = true) : isBlank (String.ofList value) = false := by
  simp only [isValidCallingPackage, decide_eq_true_eq, List.all_eq_true] at valid
  cases names : split '.' value with
  | nil => exact absurd names (split_ne_nil '.' value)
  | cons first others =>
      have name := valid.2 first (names ▸ List.mem_cons_self)
      cases first with
      | nil => cases name
      | cons char rest =>
          have letter : char.isAlpha = true := (Bool.and_eq_true_iff.mp name).1
          rw [split_join names, isBlank, String.toList_ofList, List.cons_append, List.all_cons,
            not_isWhitespace_of_isAlpha letter, Bool.false_and]

/-! ### From the file to the server -/

section

variable {isSpace : Char → Bool} {text : List Char} {config : ArisaConfig}

/-- A user that was loaded is a number. -/
theorem isDecimal_uid (loaded : loadArisaConfig isSpace text = some config) :
    IsDecimal config.uid := by
  rw [(loaded_fields loaded).1]
  cases found : uidField isSpace (readJson text) with
  | none => exact isDecimal_of_all (by decide) (by decide)
  | some digits => exact isDecimal_of_uidField isSpace found

/-- A server that comes up from the exported variables runs with the settings they were made of. -/
theorem runsWith_of_start (loaded : loadArisaConfig isSpace text = some config)
    {crypto : Crypto.UserCrypto} {env : Config.Environment} {files : FileSystem}
    {startup : Config.Startup}
    (exported : ∀ name, env name = (config.variables.lookup name).map String.ofList)
    (started : Config.start crypto env files = .ok startup) : RunsWith ipv6 config startup := by
  have sound := sound_of_loaded loaded
  have number := isDecimal_uid loaded
  obtain ⟨runtime, read, rfl⟩ := map_eq_ok.mp started
  obtain ⟨uid, uidRead, read⟩ := bind_eq_ok.mp read
  obtain ⟨appPath, -, read⟩ := bind_eq_ok.mp read
  obtain ⟨referer, -, read⟩ := bind_eq_ok.mp read
  obtain ⟨preferences, -, read⟩ := bind_eq_ok.mp read
  obtain ⟨seed, -, read⟩ := bind_eq_ok.mp read
  obtain ⟨databaseKey, -, read⟩ := bind_eq_ok.mp read
  obtain ⟨delay, delayRead, read⟩ := bind_eq_ok.mp read
  obtain ⟨exitOnStdinClose, exitRead, read⟩ := bind_eq_ok.mp read
  cases read
  obtain ⟨uid, rfl, uidParsed⟩ :=
    parsed_of_optional (exported "ARISA_UID") number.nonempty number.solid uidRead
  obtain ⟨delay, rfl, delayParsed⟩ := parsed_of_optional (exported "ARISA_DB_PULL_DELAY")
    sound.dbPullDelay.nonempty sound.dbPullDelay.solid delayRead
  obtain ⟨value, positive⟩ := delay_of_parseU64 sound.dbPullDelay sound.positive delayParsed
  have user := toInt_of_parseI32 number uidParsed
  exact {
    uid := ⟨uid, rfl, user⟩
    userId := user
    callingPackage := by
      have set : env "ARISA_CALLING_PKG" = some (String.ofList config.callingPkg) :=
        exported "ARISA_CALLING_PKG"
      have filled := isBlank_of_isValidCallingPackage sound.callingPkg
      have kept : (some (String.ofList config.callingPkg)).filter (fun value => ¬ isBlank value) =
          some (String.ofList config.callingPkg) := by
        rw [Option.filter_some, filled]
        rfl
      simp only [Config.Startup.of, Config.AndroidHiddenApi.new, set, kept, Option.getD_some]
    dbPullDelay := value
    pauses := positive
    exitOnStdinClose := by
      have unset : env "ARISA_EXIT_ON_STDIN_CLOSE" = none := exported "ARISA_EXIT_ON_STDIN_CLOSE"
      rw [Config.optionalBool, Config.optional, unset] at exitRead
      cases exitRead
      rfl
    bind := by
      have set : env "ARISA_BIND" = some (String.ofList config.bind) := exported "ARISA_BIND"
      simpa [Config.Startup.of, set] using address_of_isValidBind ipv6 sound.bind }

end

/-- Whatever the configuration file holds: if the server that is launched comes up, it runs with
the settings that the script has loaded of it. That it is told to end with its standard input is a
setting; what the flag does is not part of the model. -/
theorem settings_reach {isSpace : Char → Bool} {deviceArch : String} {file : Option (List Char)}
    {line : List Char} {server : SimpleCommand} {crypto : Crypto.UserCrypto} {files : FileSystem}
    {startup : Config.Startup} (started : startLine isSpace deviceArch file = some line)
    (launches : Launches line server)
    (up : Config.start crypto (serverEnvironment server) files = .ok startup) :
    ∃ config, loadArisaConfig isSpace (ensureArisaConfig file) = some config ∧
      RunsWith ipv6 config startup := by
  obtain ⟨config, assetName, loaded, -, launched⟩ := launches_of_startLine started
  obtain rfl := launches.unique launched
  refine ⟨config, loaded, runsWith_of_start ipv6 loaded (fun name => ?_) up⟩
  rw [serverEnvironment_variables]

open Config in
/-- A server for user 10, beside the files of its app. -/
theorem settings_reach_written :
    ∃ line server startup, startLine cSpace "arm64-v8a" (some writtenConfig) = some line ∧
      Launches line server ∧
      start exampleCrypto (serverEnvironment server) (FileSystem.ofFiles profileFiles) =
        .ok startup ∧
      ∃ config, loadArisaConfig cSpace writtenConfig = some config ∧
        RunsWith noIpv6 config startup := by
  obtain ⟨line, started⟩ : ∃ line, startLine cSpace "arm64-v8a" (some writtenConfig) = some line :=
    ⟨_, rfl⟩
  obtain ⟨config, assetName, loaded, chosen, launches⟩ := launches_of_startLine started
  obtain ⟨startup, up⟩ : ∃ startup, start exampleCrypto
      (fun name => (config.variables.lookup name).map String.ofList)
      (FileSystem.ofFiles profileFiles) = .ok startup := by
    have written : loadArisaConfig cSpace writtenConfig =
        some ⟨"127.0.0.1:3000".toList, "10".toList, "com.termux".toList, "50".toList⟩ := by decide
    have same := loaded.symm.trans written
    cases same
    have comes : (start exampleCrypto (fun name => (List.lookup name
        [("ARISA_BIND", "127.0.0.1:3000".toList), ("ARISA_UID", "10".toList),
          ("ARISA_CALLING_PKG", "com.termux".toList), ("ARISA_DB_PULL_DELAY", "50".toList)]).map
        String.ofList) (FileSystem.ofFiles profileFiles)).toOption.isSome = true := by
      decide +kernel
    obtain ⟨startup, up⟩ := Option.isSome_iff_exists.mp comes
    exact ⟨startup, toOption_eq_some.mp up⟩
  rw [← serverEnvironment_variables] at up
  exact ⟨line, _, startup, started, launches, up, settings_reach noIpv6 started launches up⟩

end Arisa.Control
