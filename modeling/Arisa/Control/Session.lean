import Arisa.Control.Startup

/-!
# The configuration over many commands

`arisa_control config` loads the file, changes one setting and writes all four
back; the other commands create or remove the file. `sessions_refine` says that
this is the same as keeping the settings in memory between the commands.
-/

namespace Arisa.Control

open Arisa.Std

/-! ### Writing -/

def quoted (text : List Char) : List Char := '"' :: text ++ ['"']

/-- The JSON that `printf` makes of the settings. -/
def configJson (config : ArisaConfig) : List Char :=
  '\x7b' :: quoted "ARISA_BIND".toList ++ ':' :: quoted config.bind ++
    ',' :: quoted "ARISA_UID".toList ++ ':' :: config.uid ++
    ',' :: quoted "ARISA_CALLING_PKG".toList ++ ':' :: quoted config.callingPkg ++
    ',' :: quoted "ARISA_DB_PULL_DELAY".toList ++ ':' :: config.dbPullDelay ++ ['\x7d']

/-- The text that `write_arisa_config` sends to the device. -/
def writeArisaConfig (config : ArisaConfig) : List Char :=
  configJson config ++ ['\n']

def defaultArisaConfig : ArisaConfig :=
  ⟨defaultArisaBind, defaultArisaUid, defaultArisaCallingPkg, defaultArisaDbPullDelay⟩

/-- `ensure_arisa_config`: what the file holds afterwards. -/
def ensureArisaConfig (file : Option (List Char)) : List Char :=
  file.getD (writeArisaConfig defaultArisaConfig)

/-! ### Editing -/

/-- The lines of the standard input. -/
abbrev Input := List (List Char)

/-- `read_with_example`; it fails at the end of the input. -/
def readWithExample (shown : List Char) : Input → Option (List Char × Input)
  | [] => none
  | line :: rest => some (if line.isEmpty then shown else line, rest)

/-- `confirm_config_change`. -/
def confirmConfigChange : Input → Bool
  | [] => false
  | answer :: rest =>
      if answer = ['y'] ∨ answer = ['Y'] then true
      else if answer = ['n'] ∨ answer = ['N'] then false
      else confirmConfigChange rest

/-- The setting is written once the change is confirmed. -/
def confirmed (config : ArisaConfig) (input : Input) : Option ArisaConfig :=
  if confirmConfigChange input then some config else none

/-- An invalid address is announced as replaced by the default, but nothing is changed. -/
def configureArisaBind (config : ArisaConfig) (input : Input) : Option ArisaConfig := do
  let (newValue, rest) ← readWithExample config.bind input
  if isValidBind newValue then confirmed { config with bind := newValue } rest else none

def configureArisaCallingPackage (config : ArisaConfig) (input : Input) : Option ArisaConfig := do
  let (newValue, rest) ← readWithExample config.callingPkg input
  let newValue := if isValidCallingPackage newValue then newValue else defaultArisaCallingPkg
  confirmed { config with callingPkg := newValue } rest

/-- `^-?[0-9]+$`. -/
def isInteger : List Char → Bool
  | '-' :: digits => isDigits digits.length digits
  | digits => isDigits digits.length digits

def configureArisaDbPullDelay (config : ArisaConfig) (input : Input) : Option ArisaConfig := do
  let (newValue, rest) ← readWithExample config.dbPullDelay input
  let newValue :=
    if ¬ isInteger newValue then "1000".toList
    else if isNotPositive newValue then "1000".toList
    else newValue
  confirmed { config with dbPullDelay := newValue } rest

/-- `UserInfo\{([0-9]+):([^:]+):` at one place. -/
def matchUserInfo (text : List Char) : Option (List Char × List Char) :=
  let opening := "UserInfo\x7b".toList
  if opening.isPrefixOf text then
    let rest := text.drop opening.length
    match captureDigits rest, rest.dropWhile Char.isDigit with
    | some userId, ':' :: tail =>
        let userName := tail.takeWhile (· ≠ ':')
        if ':' ∈ tail ∧ userName ≠ [] then some (userId, userName) else none
    | _, _ => none
  else none

/-- The leftmost match of a line. -/
def findUserInfo : List Char → Option (List Char × List Char)
  | [] => none
  | char :: rest => (matchUserInfo (char :: rest)).orElse fun () => findUserInfo rest

def supportedUserNames : List String :=
  ["Work profile", "업무 프로필", "DUAL_APP", "듀얼 앱", "Secure Folder", "보안 폴더"]

/-- The user that the menu offers for a line. -/
def supportedUser (line : List Char) : Option (List Char) := do
  let (userId, userName) ← findUserInfo line
  if userId = ['0'] ∨ String.ofList userName ∈ supportedUserNames then some userId else none

/-- The loop over what `pm list users` prints. -/
def userIds (output : List Char) : List (List Char) :=
  (split '\n' (output.filter (· ≠ '\r'))).filterMap supportedUser

/-- `${user_ids[$index]}`: a negative index counts from the end, and what is not there is empty. -/
def element (items : List (List Char)) (index : Int) : List Char :=
  if 0 ≤ index then (items[index.toNat]?).getD []
  else if -(items.length : Int) ≤ index then (items[(items.length + index).toNat]?).getD []
  else []

section Commands

-- `arithmetic` is `$((choice))` for a run of digits: octal after a zero, and beyond 64 bits it
-- wraps or fails, as the version of the shell has it.
variable (isSpace : Char → Bool) (arithmetic : List Char → Option Int)

/-- The checks of the menu are numeric tests, which are false for a number beyond 64 bits. -/
def selectUser (users : List (List Char)) (choice : List Char) : Option (List Char) :=
  let number := parseSigned (2 ^ 63) choice
  if ¬ isDigits choice.length choice then none
  else if number.any (· < 1) ∨ number.any (· > (users.length : Int)) then none
  else (arithmetic choice).map fun value => element users (value - 1)

def configureArisaUid (config : ArisaConfig) (output : List Char) (input : Input) :
    Option ArisaConfig :=
  let users := userIds output
  if users.isEmpty then none
  else
    match input with
    | [] => none
    | choice :: rest => do
        let userId ← selectUser arithmetic users choice
        confirmed { config with uid := userId } rest

/-- The menu of `arisa_config`: the settings to write, if it comes to that. -/
def editConfig (config : ArisaConfig) (output : List Char) : Input → Option ArisaConfig
  | [] => none
  | choice :: input =>
      if choice = ['1'] then configureArisaBind config input
      else if choice = ['2'] then configureArisaUid arithmetic config output input
      else if choice = ['3'] then configureArisaCallingPackage config input
      else if choice = ['4'] then configureArisaDbPullDelay config input
      else none

inductive Command where
  /-- `install` and `start` make sure that there is a file. -/
  | ensure
  /-- `config`, with what `pm list users` prints and the user enters. -/
  | config (output : List Char) (input : Input)
  | allRemove
  /-- Somebody else writes the file, or a write of the script breaks off. -/
  | replaced (file : Option (List Char))

/-- What a command makes of the file. -/
def Command.run (file : Option (List Char)) : Command → Option (List Char)
  | .ensure => some (ensureArisaConfig file)
  | .config output input =>
      let text := ensureArisaConfig file
      let written := do
        let config ← loadArisaConfig isSpace text
        let edited ← editConfig arithmetic config output input
        return writeArisaConfig edited
      some (written.getD text)
  | .allRemove => none
  | .replaced file => file

/-- What the next command finds of the settings. A user is left empty where the choice is a number
beyond the shell's integers; then no value is written, and the default user is read. -/
def ArisaConfig.settle (config : ArisaConfig) : ArisaConfig :=
  { config with uid := if config.uid.isEmpty then defaultArisaUid else config.uid }

/-- The settings in memory: there are none, they cannot be loaded, or they are these. -/
abbrev Settings := Option (Option ArisaConfig)

/-- A command on settings in memory. -/
def Command.apply (settings : Settings) : Command → Settings
  | .ensure => some (settings.getD (some defaultArisaConfig))
  | .config output input =>
      some ((settings.getD (some defaultArisaConfig)).map fun config =>
        ((editConfig arithmetic config output input).map ArisaConfig.settle).getD config)
  | .allRemove => none
  | .replaced file => file.map (loadArisaConfig isSpace)

end Commands

/-! ### Reading back what was written -/

/-- The class `[[:space:]]` has no character of the class `[[:graph:]]`. -/
def Spaces (isSpace : Char → Bool) : Prop :=
  ∀ char : Char, 32 < char.toNat → char.toNat < 127 → isSpace char = false

section Scan

variable {isSpace : Char → Bool} {name : String} {capture : List Char → Option (List Char)}
  {before rest : List Char}

/-- A field begins with a quotation mark. -/
theorem matchField_of_ne {char : Char} (other : char ≠ '"') :
    matchField isSpace name capture (char :: rest) = none := by
  have start : ('"' :: name.toList ++ ['"']).isPrefixOf (char :: rest) = false := by
    simp [List.isPrefixOf, Ne.symm other]
  simp only [matchField, start, Bool.false_eq_true, if_false]

/-- Where nothing matches, the scan goes on with the next character. -/
theorem findField_cons_of_none {char : Char}
    (none : matchField isSpace name capture (char :: rest) = none) :
    findField isSpace name capture (char :: rest) = findField isSpace name capture rest := by
  rw [findField, none]

/-- Nothing is found before the next quotation mark. -/
theorem findField_skip (free : '"' ∉ before) :
    findField isSpace name capture (before ++ rest) = findField isSpace name capture rest := by
  induction before with
  | nil => rfl
  | cons char before ih =>
      obtain ⟨other, free⟩ := not_or.mp (List.mem_cons.not.mp free)
      rw [List.cons_append, findField_cons_of_none (matchField_of_ne (Ne.symm other)), ih free]

/-- A text ends at the first quotation mark after it. -/
theorem takeWhile_quote {text : List Char} (free : '"' ∉ text) (rest : List Char) :
    (text ++ '"' :: rest).takeWhile (· ≠ '"') = text := by
  have inside : ∀ char ∈ text, decide (char ≠ '"') = true := by
    intro char member
    apply decide_eq_true
    rintro rfl
    exact free member
  rw [List.takeWhile_append_of_pos inside]
  simp

/-- At a quotation mark, the field is found if its name and a colon follow. -/
theorem matchField_quoted {text : List Char} {next : Char} (nameFree : '"' ∉ name.toList)
    (free : '"' ∉ text) (solid : isSpace next = false) :
    matchField isSpace name capture (quoted text ++ next :: rest) =
      if text = name.toList ∧ next = ':' then capture (rest.dropWhile isSpace) else none := by
  by_cases same : text = name.toList
  · subst same
    have here : ('"' :: name.toList ++ ['"']).isPrefixOf (quoted name.toList ++ next :: rest) =
        true := by
      rw [List.isPrefixOf_iff_prefix]
      exact List.prefix_append _ _
    have after : (quoted name.toList ++ next :: rest).drop
        ('"' :: name.toList ++ ['"']).length = next :: rest := List.drop_left
    simp only [matchField, here, if_true, after, List.dropWhile_cons, solid, Bool.false_eq_true,
      if_false, true_and]
    split
    · rename_i found
      cases found
      rw [if_pos rfl]
    · rename_i other
      rw [if_neg]
      rintro rfl
      exact other _ rfl
  · have elsewhere : ('"' :: name.toList ++ ['"']).isPrefixOf (quoted text ++ next :: rest) =
        false := by
      rw [← Bool.not_eq_true, List.isPrefixOf_iff_prefix]
      rintro ⟨tail, whole⟩
      apply same
      have inner : name.toList ++ '"' :: tail = text ++ '"' :: next :: rest := by
        simpa [quoted] using whole
      rw [← takeWhile_quote free (next :: rest), ← inner, takeWhile_quote nameFree]
    simp only [matchField, elsewhere, Bool.false_eq_true, if_false, same, false_and]

/-- A mark that no name follows. -/
theorem matchField_closing {next : Char} (named : name.toList.head? ≠ some next)
    (filled : name.toList ≠ []) :
    matchField isSpace name capture ('"' :: next :: rest) = none := by
  have elsewhere : ('"' :: name.toList ++ ['"']).isPrefixOf ('"' :: next :: rest) = false := by
    rw [← Bool.not_eq_true, List.isPrefixOf_iff_prefix]
    rintro ⟨tail, whole⟩
    cases letters : name.toList with
    | nil => exact filled letters
    | cons first others =>
        rw [letters] at whole named
        simp only [List.cons_append, List.cons.injEq, true_and] at whole
        exact named (congrArg some whole.1)
  simp only [matchField, elsewhere, Bool.false_eq_true, if_false]

/-- What the scan needs of the name it looks for. -/
structure FieldName (name : String) : Prop where
  free : '"' ∉ name.toList
  filled : name.toList ≠ []
  letter : ∀ char ∈ [',', ':'], name.toList.head? ≠ some char

/-- A quoted text that is not the field. -/
theorem findField_other {text : List Char} {next : Char} (field : FieldName name)
    (free : '"' ∉ text) (solid : isSpace next = false) (separates : next ∈ [',', ':'])
    (other : text = name.toList → next = ':' → capture (rest.dropWhile isSpace) = none) :
    findField isSpace name capture (quoted text ++ next :: rest) =
      findField isSpace name capture (next :: rest) := by
  have opening : matchField isSpace name capture (quoted text ++ next :: rest) = none := by
    rw [matchField_quoted field.free free solid]
    split
    · rename_i here
      exact other here.1 here.2
    · rfl
  have closing : matchField isSpace name capture ('"' :: next :: rest) = none :=
    matchField_closing (field.letter next separates) field.filled
  have whole : quoted text ++ next :: rest = '"' :: (text ++ '"' :: next :: rest) := by
    simp [quoted]
  rw [whole] at opening ⊢
  rw [findField_cons_of_none opening, findField_skip free, findField_cons_of_none closing]

/-- The field is found where it stands. -/
theorem findField_here {value : List Char} (field : FieldName name) (solid : isSpace ':' = false)
    (captured : capture (rest.dropWhile isSpace) = some value) :
    findField isSpace name capture (quoted name.toList ++ ':' :: rest) = some value := by
  have opening : matchField isSpace name capture (quoted name.toList ++ ':' :: rest) =
      some value := by
    rw [matchField_quoted field.free field.free solid, if_pos ⟨rfl, rfl⟩, captured]
  have whole : quoted name.toList ++ ':' :: rest =
      '"' :: (name.toList ++ '"' :: ':' :: rest) := by
    simp [quoted]
  rw [whole] at opening ⊢
  rw [findField, opening]

/-- A field with another value before the next comma. -/
theorem findField_past {other value : List Char} (field : FieldName name)
    (spaces : Spaces isSpace) (free : '"' ∉ other) (valueFree : '"' ∉ value)
    (mismatch : other = name.toList →
      capture ((value ++ ',' :: rest).dropWhile isSpace) = none) :
    findField isSpace name capture (quoted other ++ ':' :: (value ++ ',' :: rest)) =
      findField isSpace name capture rest := by
  have step := findField_other field free (spaces ':' (by decide) (by decide)) (by decide)
    fun same _ => mismatch same
  have passed : '"' ∉ ':' :: value ++ [','] := by simp [valueFree]
  have whole : ':' :: (value ++ ',' :: rest) = (':' :: value ++ [',']) ++ rest := by simp
  rw [step, whole, findField_skip passed]

/-- A field with another quoted value before the next comma. -/
theorem findField_pastText {other text : List Char} (field : FieldName name)
    (spaces : Spaces isSpace) (free : '"' ∉ other) (textFree : '"' ∉ text)
    (mismatch : other ≠ name.toList) :
    findField isSpace name capture (quoted other ++ ':' :: (quoted text ++ ',' :: rest)) =
      findField isSpace name capture rest := by
  have named : findField isSpace name capture
      (quoted other ++ ':' :: (quoted text ++ ',' :: rest)) =
        findField isSpace name capture (':' :: (quoted text ++ ',' :: rest)) :=
    findField_other field free (spaces ':' (by decide) (by decide)) (by decide)
      fun same _ => absurd same mismatch
  have valued : findField isSpace name capture (quoted text ++ ',' :: rest) =
      findField isSpace name capture (',' :: rest) :=
    findField_other field textFree (spaces ',' (by decide) (by decide)) (by decide)
      fun _ same => absurd same (by decide)
  rw [named, findField_cons_of_none (matchField_of_ne (by decide)), valued,
    findField_cons_of_none (matchField_of_ne (by decide))]

/-- The last field with another value. -/
theorem findField_last {other value : List Char} (field : FieldName name)
    (spaces : Spaces isSpace) (free : '"' ∉ other) (valueFree : '"' ∉ value)
    (mismatch : other ≠ name.toList) :
    findField isSpace name capture (quoted other ++ ':' :: value) = none := by
  have step : findField isSpace name capture (quoted other ++ ':' :: value) =
      findField isSpace name capture ((':' :: value) ++ []) := by
    rw [List.append_nil]
    exact findField_other field free (spaces ':' (by decide) (by decide)) (by decide)
      fun same _ => absurd same mismatch
  have passed : '"' ∉ ':' :: value := by simp [valueFree]
  rw [step, findField_skip passed, findField]

end Scan

/-! ### What the captures take -/

/-- No white space stands before a value. -/
theorem dropWhile_solid {isSpace : Char → Bool} {char : Char} {rest : List Char}
    (solid : isSpace char = false) : (char :: rest).dropWhile isSpace = char :: rest := by
  rw [List.dropWhile_cons, solid]
  rfl

/-- A quoted text is captured whole. -/
theorem captureQuoted_quoted {text rest : List Char} (free : '"' ∉ text) :
    captureQuoted (quoted text ++ rest) = some text := by
  have whole : quoted text ++ rest = '"' :: (text ++ '"' :: rest) := by simp [quoted]
  rw [whole, captureQuoted, if_pos (by simp), takeWhile_quote free]

/-- A number is captured up to what stops it. -/
theorem captureDigits_number {digits rest : List Char} (number : IsDecimal digits)
    (stops : Stops rest) : captureDigits (digits ++ rest) = some digits := by
  simp only [captureDigits, takeWhile_digits number stops, number.not_isEmpty,
    Bool.false_eq_true, if_false]

/-- A number with a sign is captured with it. -/
theorem captureInteger_number {text rest : List Char} (number : IsSignedDecimal text)
    (stops : Stops rest) : captureInteger (text ++ rest) = some text := by
  cases number with
  | plain number =>
      obtain ⟨char, others, rfl, minus, -⟩ := number.head
      unfold captureInteger
      split
      · rename_i same
        exact absurd (List.cons.inj same).1 minus
      · exact captureDigits_number number stops
  | minus number =>
      rw [List.cons_append, captureInteger, captureDigits_number number stops, Option.map_some]

/-! ### Sound settings -/

/-- What the script keeps in memory: the checks have been passed. -/
structure ArisaConfig.Sound (config : ArisaConfig) : Prop where
  bind : isValidBind config.bind = true
  uid : config.uid = [] ∨ IsDecimal config.uid
  callingPkg : isValidCallingPackage config.callingPkg = true
  dbPullDelay : IsSignedDecimal config.dbPullDelay
  positive : isNotPositive config.dbPullDelay = false

/-- The default settings pass their own checks. -/
theorem sound_default : defaultArisaConfig.Sound where
  bind := by decide
  uid := .inr (isDecimal_of_all (by decide) (by decide))
  callingPkg := by decide
  dbPullDelay := .plain (isDecimal_of_all (by decide) (by decide))
  positive := by decide

/-- The second that stands in for a bad delay is a number. -/
theorem isSignedDecimal_second : IsSignedDecimal "1000".toList :=
  .plain (isDecimal_of_all (by decide) (by decide))

/-- Filling in the user keeps the settings sound. -/
theorem ArisaConfig.Sound.settle {config : ArisaConfig} (sound : config.Sound) :
    config.settle.Sound where
  bind := sound.bind
  uid := by
    right
    rcases sound.uid with absent | number
    · simp only [ArisaConfig.settle, absent, List.isEmpty_nil, if_true]
      exact isDecimal_of_all (by decide) (by decide)
    · simp only [ArisaConfig.settle, number.not_isEmpty, Bool.false_eq_true, if_false]
      exact number
  callingPkg := sound.callingPkg
  dbPullDelay := sound.dbPullDelay
  positive := sound.positive

/-- Whatever the file holds, what is loaded of it is sound. -/
theorem sound_of_loaded {isSpace : Char → Bool} {text : List Char} {config : ArisaConfig}
    (loaded : loadArisaConfig isSpace text = some config) : config.Sound := by
  unfold loadArisaConfig at loaded
  simp only at loaded
  split at loaded
  · cases loaded
  cases loaded
  have form : IsSignedDecimal
      ((dbPullDelayField isSpace (readJson text)).getD defaultArisaDbPullDelay) := by
    cases found : dbPullDelayField isSpace (readJson text) with
    | none => exact sound_default.dbPullDelay
    | some number =>
        rcases form_of_dbPullDelayField isSpace found with digits | ⟨digits, rfl, decimals⟩
        · exact .plain digits
        · exact .minus decimals
  exact {
    bind := by
      dsimp only
      split
      · assumption
      · exact sound_default.bind
    uid := by
      cases found : uidField isSpace (readJson text) with
      | none => exact sound_default.uid
      | some digits => exact .inr (isDecimal_of_uidField isSpace found)
    callingPkg := by
      dsimp only
      split
      · assumption
      · exact sound_default.callingPkg
    dbPullDelay := by
      dsimp only
      split
      · exact isSignedDecimal_second
      · exact form
    positive := by
      dsimp only
      split
      · decide
      · exact Bool.eq_false_iff.mpr ‹_› }

/-! ### The round trip -/

/-- A plain text has no quotation mark. -/
theorem quoteFree_of_plain {text : List Char} (plain : ∀ char ∈ text, isPlain char = true) :
    '"' ∉ text := by
  intro member
  exact absurd (plain '"' member) (by decide)

/-- A number is printed in plain characters. -/
theorem plain_of_isSignedDecimal {text : List Char} (number : IsSignedDecimal text) :
    ∀ char ∈ text, isPlain char = true := by
  cases number with
  | plain number => exact plain_of_isDecimal number
  | minus number => exact List.forall_mem_cons.mpr ⟨by decide, plain_of_isDecimal number⟩

/-- No digit counts as white space. -/
theorem solid_of_isDigit {isSpace : Char → Bool} {char : Char} (spaces : Spaces isSpace)
    (digit : char.isDigit = true) : isSpace char = false := by
  simp only [Char.isDigit, Bool.and_eq_true, decide_eq_true_eq, UInt32.le_iff_toNat_le] at digit
  have low : 48 ≤ char.toNat := digit.1
  have high : char.toNat ≤ 57 := digit.2
  exact spaces char (by omega) (by omega)

/-- A number begins with a character that is no white space. -/
theorem head_of_isSignedDecimal {isSpace : Char → Bool} {text : List Char}
    (spaces : Spaces isSpace) (number : IsSignedDecimal text) :
    ∃ first others, text = first :: others ∧ isSpace first = false := by
  cases number with
  | plain number =>
      obtain ⟨first, others, rfl, -, -⟩ := number.head
      exact ⟨first, others, rfl,
        solid_of_isDigit spaces (number.digits first (List.mem_cons_self ..))⟩
  | minus number => exact ⟨'-', _, rfl, spaces '-' (by decide) (by decide)⟩

section RoundTrip

variable {isSpace : Char → Bool} {config : ArisaConfig}

/-- The user, even one left empty, is printed in plain characters. -/
theorem ArisaConfig.Sound.plainUid (sound : config.Sound) :
    ∀ char ∈ config.uid, isPlain char = true := by
  rcases sound.uid with absent | number
  · rw [absent]
    exact fun char member => absurd member List.not_mem_nil
  · exact plain_of_isDecimal number

/-- The characters that `printf` puts around the values, and those of the values. -/
def isPrinted (char : Char) : Bool :=
  isPlain char || ['{', '"', ',', '}'].contains char

/-- The JSON consists of the marks that `printf` puts there and of plain characters. -/
theorem printed_configJson (sound : config.Sound) :
    ∀ char ∈ configJson config, isPrinted char = true := by
  have printed {text : List Char} (plain : ∀ char ∈ text, isPlain char = true) :
      text.all isPrinted = true := by
    rw [List.all_eq_true]
    intro char member
    simp [isPrinted, plain char member]
  have name (text : String) (plain : text.toList.all isPlain = true) :
      text.toList.all isPrinted = true := printed (List.all_eq_true.mp plain)
  rw [← List.all_eq_true]
  simp only [configJson, quoted, List.cons_append, List.append_assoc, List.all_cons,
    List.all_append, List.all_nil, printed (plain_of_isValidBind sound.bind),
    printed sound.plainUid, printed (plain_of_isValidCallingPackage sound.callingPkg),
    printed (plain_of_isSignedDecimal sound.dbPullDelay), name "ARISA_BIND" (by decide),
    name "ARISA_UID" (by decide), name "ARISA_CALLING_PKG" (by decide),
    name "ARISA_DB_PULL_DELAY" (by decide)]
  decide

/-- The next command sees the printed JSON, without the line feed at its end. -/
theorem readJson_writeArisaConfig (sound : config.Sound) :
    readJson (writeArisaConfig config) = configJson config := by
  have kept : ∀ char ∈ configJson config,
      decide (char ≠ '\r' ∧ char ≠ '\n' ∧ char ≠ '\x00') = true := by
    intro char member
    have printed := printed_configJson sound char member
    apply decide_eq_true
    refine ⟨?_, ?_, ?_⟩
    all_goals
      rintro rfl
      exact absurd printed (by decide)
  rw [readJson, writeArisaConfig, List.filter_append, List.filter_eq_self.mpr kept]
  simp

/-- The JSON with its parts nested to the right, as the scan takes them. -/
theorem configJson_eq (config : ArisaConfig) :
    configJson config =
      '\x7b' :: (quoted "ARISA_BIND".toList ++ ':' :: (quoted config.bind ++
        ',' :: (quoted "ARISA_UID".toList ++ ':' :: (config.uid ++
          ',' :: (quoted "ARISA_CALLING_PKG".toList ++ ':' :: (quoted config.callingPkg ++
            ',' :: (quoted "ARISA_DB_PULL_DELAY".toList ++ ':' :: (config.dbPullDelay ++
              ['\x7d'])))))))) := by
  simp [configJson]

/-- The names of the settings begin with a letter, which is neither a comma nor a colon. -/
theorem fieldName_of_head {name : String} (free : '"' ∉ name.toList)
    (letter : name.toList.head? = some 'A') : FieldName name where
  free := free
  filled := by
    intro empty
    rw [empty] at letter
    cases letter
  letter char separates := by
    rw [letter]
    rintro ⟨⟩
    exact absurd separates (by decide)

variable (spaces : Spaces isSpace) (sound : config.Sound)
include spaces sound

/-- The address is read back from the first field. -/
theorem bindField_configJson : bindField isSpace (configJson config) = some config.bind := by
  have free := quoteFree_of_plain (plain_of_isValidBind sound.bind)
  rw [configJson_eq, bindField, findField_cons_of_none (matchField_of_ne (by decide))]
  apply findField_here (fieldName_of_head (by decide) (by decide))
    (spaces ':' (by decide) (by decide))
  rw [quoted, List.cons_append, List.cons_append,
    dropWhile_solid (spaces '"' (by decide) (by decide))]
  exact captureQuoted_quoted free

/-- The user is read back from the second field; left empty, it gives way to the default. -/
theorem uidField_configJson :
    (uidField isSpace (configJson config)).getD defaultArisaUid = config.settle.uid := by
  have field : FieldName "ARISA_UID" := fieldName_of_head (by decide) (by decide)
  have bindFree := quoteFree_of_plain (plain_of_isValidBind sound.bind)
  have pkgFree := quoteFree_of_plain (plain_of_isValidCallingPackage sound.callingPkg)
  have delayFree := quoteFree_of_plain (plain_of_isSignedDecimal sound.dbPullDelay)
  have stops (rest : List Char) : Stops (',' :: rest) := by simp [Stops]
  rw [configJson_eq, uidField, findField_cons_of_none (matchField_of_ne (by decide)),
    findField_pastText field spaces (by decide) bindFree (by decide)]
  rcases sound.uid with absent | number
  · -- the value is missing, and no later field has this name
    have settled : config.settle.uid = defaultArisaUid := by simp [ArisaConfig.settle, absent]
    rw [absent, settled, findField_past field spaces (by decide) List.not_mem_nil,
      findField_pastText field spaces (by decide) pkgFree (by decide),
      findField_last field spaces (by decide) (by simp [delayFree]) (by decide), Option.getD_none]
    intro _
    rw [List.nil_append, dropWhile_solid (spaces ',' (by decide) (by decide))]
    rfl
  · have settled : config.settle.uid = config.uid := by
      simp [ArisaConfig.settle, number.not_isEmpty]
    rw [settled, findField_here field (spaces ':' (by decide) (by decide)), Option.getD_some]
    obtain ⟨first, others, digits, -, -⟩ := number.head
    have digit := number.digits first (digits ▸ List.mem_cons_self ..)
    rw [digits, List.cons_append, dropWhile_solid (solid_of_isDigit spaces digit),
      ← List.cons_append, ← digits]
    exact captureDigits_number number (stops _)

/-- The package is read back from the third field. -/
theorem callingPkgField_configJson :
    callingPkgField isSpace (configJson config) = some config.callingPkg := by
  have field : FieldName "ARISA_CALLING_PKG" := fieldName_of_head (by decide) (by decide)
  have bindFree := quoteFree_of_plain (plain_of_isValidBind sound.bind)
  have uidFree := quoteFree_of_plain sound.plainUid
  have pkgFree := quoteFree_of_plain (plain_of_isValidCallingPackage sound.callingPkg)
  rw [configJson_eq, callingPkgField, findField_cons_of_none (matchField_of_ne (by decide)),
    findField_pastText field spaces (by decide) bindFree (by decide),
    findField_past field spaces (by decide) uidFree fun same => absurd same (by decide)]
  apply findField_here field (spaces ':' (by decide) (by decide))
  rw [quoted, List.cons_append, List.cons_append,
    dropWhile_solid (spaces '"' (by decide) (by decide))]
  exact captureQuoted_quoted pkgFree

/-- The delay is read back from the last field, up to the closing brace. -/
theorem dbPullDelayField_configJson :
    dbPullDelayField isSpace (configJson config) = some config.dbPullDelay := by
  have field : FieldName "ARISA_DB_PULL_DELAY" := fieldName_of_head (by decide) (by decide)
  have bindFree := quoteFree_of_plain (plain_of_isValidBind sound.bind)
  have uidFree := quoteFree_of_plain sound.plainUid
  have pkgFree := quoteFree_of_plain (plain_of_isValidCallingPackage sound.callingPkg)
  rw [configJson_eq, dbPullDelayField, findField_cons_of_none (matchField_of_ne (by decide)),
    findField_pastText field spaces (by decide) bindFree (by decide),
    findField_past field spaces (by decide) uidFree fun same => absurd same (by decide),
    findField_pastText field spaces (by decide) pkgFree (by decide)]
  apply findField_here field (spaces ':' (by decide) (by decide))
  obtain ⟨first, others, signed, solid⟩ := head_of_isSignedDecimal spaces sound.dbPullDelay
  rw [signed, List.cons_append, dropWhile_solid solid, ← List.cons_append, ← signed]
  exact captureInteger_number sound.dbPullDelay (by simp [Stops])

/-- Loading what was written gives the settings back. -/
theorem loadArisaConfig_writeArisaConfig :
    loadArisaConfig isSpace (writeArisaConfig config) = some config.settle := by
  have filled : (configJson config).isEmpty = false := by simp [configJson_eq]
  simp only [loadArisaConfig, readJson_writeArisaConfig sound, filled,
    bindField_configJson spaces sound, uidField_configJson spaces sound,
    callingPkgField_configJson spaces sound, dbPullDelayField_configJson spaces sound,
    Option.getD_some, sound.bind, sound.callingPkg, sound.positive, if_true,
    Bool.false_eq_true, if_false]
  rfl

end RoundTrip

/-! ### Edits keep the settings sound -/

section Edits

variable {arithmetic : List Char → Option Int} {config changed : ArisaConfig} {input : Input}
  {output : List Char}

/-- A confirmed change is saved as it was shown. -/
theorem eq_of_confirmed (saved : confirmed config input = some changed) : changed = config := by
  unfold confirmed at saved
  split at saved
  · exact (Option.some.inj saved).symm
  · cases saved

/-- The menu saves only an address that passes the check. -/
theorem sound_of_configureArisaBind (sound : config.Sound)
    (saved : configureArisaBind config input = some changed) : changed.Sound := by
  obtain ⟨⟨newValue, rest⟩, -, saved⟩ := Option.bind_eq_some_iff.mp saved
  dsimp only at saved
  split at saved
  · rename_i valid
    cases eq_of_confirmed saved
    exact { sound with bind := valid }
  · cases saved

/-- A package that does not pass is replaced by the default. -/
theorem sound_of_configureArisaCallingPackage (sound : config.Sound)
    (saved : configureArisaCallingPackage config input = some changed) : changed.Sound := by
  obtain ⟨⟨newValue, rest⟩, -, saved⟩ := Option.bind_eq_some_iff.mp saved
  cases eq_of_confirmed saved
  refine { sound with callingPkg := ?_ }
  dsimp only
  split
  · assumption
  · exact sound_default.callingPkg

/-- What the shell's pattern takes for an integer is one. -/
theorem isSignedDecimal_of_isInteger {text : List Char} (matched : isInteger text = true) :
    IsSignedDecimal text := by
  unfold isInteger at matched
  split at matched
  · exact .minus (isDecimal_of_isDigits matched).1
  · exact .plain (isDecimal_of_isDigits matched).1

/-- A delay that is no positive integer is replaced by a second. -/
theorem sound_of_configureArisaDbPullDelay (sound : config.Sound)
    (saved : configureArisaDbPullDelay config input = some changed) : changed.Sound := by
  obtain ⟨⟨newValue, rest⟩, -, saved⟩ := Option.bind_eq_some_iff.mp saved
  cases eq_of_confirmed saved
  by_cases matched : isInteger newValue = true
  · cases sign : isNotPositive newValue with
    | true =>
        refine { sound with dbPullDelay := ?_, positive := ?_ }
        · simpa [matched, sign] using isSignedDecimal_second
        · simp only [matched, not_true_eq_false, if_false, if_true]
          decide
    | false =>
        refine { sound with dbPullDelay := ?_, positive := ?_ }
        · simpa [matched, sign] using isSignedDecimal_of_isInteger matched
        · simp [matched, sign]
  · refine { sound with dbPullDelay := ?_, positive := ?_ }
    · simpa [matched] using isSignedDecimal_second
    · simp only [matched, Bool.false_eq_true, not_false_eq_true, if_true]
      decide

/-- The users of the menu have numbers. -/
theorem isDecimal_of_findUserInfo {line : List Char} {user : List Char × List Char}
    (found : findUserInfo line = some user) : IsDecimal user.1 := by
  induction line with
  | nil => cases found
  | cons char rest ih =>
      rw [findUserInfo] at found
      cases matched : matchUserInfo (char :: rest) with
      | none =>
          rw [matched] at found
          exact ih found
      | some here =>
          rw [matched] at found
          cases found
          unfold matchUserInfo at matched
          simp only at matched
          split at matched
          · split at matched
            · rename_i captured _
              split at matched
              · cases matched
                exact isDecimal_of_captureDigits captured
              · cases matched
            · cases matched
          · cases matched

/-- The menu offers only numbers as users. -/
theorem isDecimal_of_userIds {userId : List Char} (offered : userId ∈ userIds output) :
    IsDecimal userId := by
  obtain ⟨line, -, supported⟩ := List.mem_filterMap.mp offered
  obtain ⟨⟨number, userName⟩, found, supported⟩ := Option.bind_eq_some_iff.mp supported
  dsimp only at supported
  split at supported
  · cases supported
    exact isDecimal_of_findUserInfo found
  · cases supported

/-- Whatever the index, the element of an array is one of its own or empty. -/
theorem element_mem (items : List (List Char)) (index : Int) :
    element items index = [] ∨ element items index ∈ items := by
  have looked (position : Nat) :
      (items[position]?).getD [] = [] ∨ (items[position]?).getD [] ∈ items := by
    cases found : items[position]? with
    | none => exact .inl rfl
    | some item => exact .inr (List.mem_of_getElem? found)
  unfold element
  split
  · exact looked _
  · split
    · exact looked _
    · exact .inl rfl

/-- The user saved is one that was offered, or is left empty. -/
theorem sound_of_configureArisaUid (sound : config.Sound)
    (saved : configureArisaUid arithmetic config output input = some changed) :
    changed.Sound := by
  unfold configureArisaUid at saved
  simp only at saved
  split at saved
  · cases saved
  split at saved
  · cases saved
  obtain ⟨userId, selected, saved⟩ := Option.bind_eq_some_iff.mp saved
  cases eq_of_confirmed saved
  refine { sound with uid := ?_ }
  unfold selectUser at selected
  simp only at selected
  split at selected
  · cases selected
  split at selected
  · cases selected
  obtain ⟨value, -, rfl⟩ := Option.map_eq_some_iff.mp selected
  exact (element_mem _ _).imp_right isDecimal_of_userIds

/-- So the menu keeps the settings sound, whatever is chosen and entered. -/
theorem sound_of_editConfig (sound : config.Sound)
    (edited : editConfig arithmetic config output input = some changed) : changed.Sound := by
  cases input with
  | nil => cases edited
  | cons choice input =>
      rw [editConfig] at edited
      split at edited
      · exact sound_of_configureArisaBind sound edited
      split at edited
      · exact sound_of_configureArisaUid sound edited
      split at edited
      · exact sound_of_configureArisaCallingPackage sound edited
      split at edited
      · exact sound_of_configureArisaDbPullDelay sound edited
      · cases edited

end Edits

/-! ### Sessions -/

section Sessions

variable {isSpace : Char → Bool} (arithmetic : List Char → Option Int)

/-- What the next command loads once there is a file. -/
theorem loadArisaConfig_ensureArisaConfig (spaces : Spaces isSpace)
    (file : Option (List Char)) :
    loadArisaConfig isSpace (ensureArisaConfig file) =
      (file.map (loadArisaConfig isSpace)).getD (some defaultArisaConfig) := by
  cases file with
  | some text => rfl
  | none => exact loadArisaConfig_writeArisaConfig spaces sound_default

/-- One command on the file does what it does on the settings in memory. -/
theorem run_refines (spaces : Spaces isSpace) (file : Option (List Char)) (command : Command) :
    (command.run isSpace arithmetic file).map (loadArisaConfig isSpace) =
      command.apply isSpace arithmetic (file.map (loadArisaConfig isSpace)) := by
  cases command with
  | ensure =>
      rw [Command.run, Option.map_some, loadArisaConfig_ensureArisaConfig spaces, Command.apply]
  | config output input =>
      have ensured := loadArisaConfig_ensureArisaConfig spaces file
      rw [Command.run, Command.apply, ← ensured, Option.map_some]
      cases loaded : loadArisaConfig isSpace (ensureArisaConfig file) with
      | none => simp [loaded]
      | some config =>
          cases edited : editConfig arithmetic config output input with
          | none => simp [loaded, edited]
          | some changed =>
              have sound := sound_of_editConfig (sound_of_loaded loaded) edited
              simp [edited, loadArisaConfig_writeArisaConfig spaces sound]
  | allRemove => rfl
  | replaced file => rfl

/-- Whatever the commands and the answers to them, the configuration file tells the next
command the settings that would have been kept in memory. The one thing that writing changes is in
`Command.apply`: a user left empty is settled as the default one. -/
theorem sessions_refine (spaces : Spaces isSpace) (commands : List Command)
    (file : Option (List Char)) :
    (commands.foldl (Command.run isSpace arithmetic) file).map (loadArisaConfig isSpace) =
      commands.foldl (Command.apply isSpace arithmetic) (file.map (loadArisaConfig isSpace)) := by
  induction commands generalizing file with
  | nil => rfl
  | cons command commands ih =>
      rw [List.foldl_cons, List.foldl_cons, ih, run_refines arithmetic spaces]

end Sessions

/-- The white space of the C locale is the class that is asked for. -/
theorem spaces_cSpace : Spaces cSpace := by
  intro char low high
  have blank : char ≠ ' ' := by
    rintro rfl
    exact absurd low (by decide)
  simp only [cSpace, blank, decide_false, Bool.false_or, Bool.and_eq_false_iff,
    decide_eq_false_iff_not]
  omega

/-- The arithmetic of the shell on numbers that do not start with a zero. -/
def plainArithmetic (digits : List Char) : Option Int := some (decimal digits)

/-- The address is changed, the first answer to the question being none; then the user. -/
def twoEdits : List Command :=
  [.config [] (["1", "127.0.0.1:4000", "yes", "y"].map String.toList),
    .config "Users:\r\n\tUserInfo\x7b0:Owner:c13\x7d\r\n\tUserInfo\x7b95:DUAL_APP:20\x7d".toList
      (["2", "2", "y"].map String.toList)]

/-- A session that changes the address and one that changes the user: the next command finds
both. -/
theorem sessions_refine_twoEdits :
    (twoEdits.foldl (Command.run cSpace plainArithmetic) none).map (loadArisaConfig cSpace) =
      some (some { defaultArisaConfig with
        bind := "127.0.0.1:4000".toList, uid := "95".toList }) :=
  (sessions_refine plainArithmetic spaces_cSpace twoEdits none).trans (by decide)

end Arisa.Control
