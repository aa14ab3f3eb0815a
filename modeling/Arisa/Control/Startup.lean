import Arisa.Control.Environment
import Arisa.Std.SocketAddr
import Arisa.Std.Split
import Mathlib.Data.List.TakeWhile

/-!
# Which configurations start the server

The control script checks the form of the values it exports; the server parses
them into types of fixed width, and an address without leading zeros. They agree
on a configuration file exactly when its fields meet `Startable`.
-/

namespace Arisa.Control

open Arisa.Std

variable {V6 : Type} (ipv6 : Reader V6) (isSpace : Char → Bool)

/-- The server gets past the variables that the control script exports. -/
structure Accepted (env : Config.Environment) : Prop where
  uid : ∃ uid, Config.optionalI32 env "ARISA_UID" = .ok (some uid)
  dbPullDelay : ∃ delay, Config.optionalU64 env "ARISA_DB_PULL_DELAY" = .ok (some delay)
  bind : ∃ address, parseSocketAddr ipv6
    ((env "ARISA_BIND").getD Config.defaultBind).toList = some address

/-- The fields of the configuration text stay within the types of the server. -/
structure Startable (json : List Char) : Prop where
  uid : ∀ digits, uidField isSpace json = some digits → decimal digits < 2 ^ 31
  dbPullDelay : ∀ number, dbPullDelayField isSpace json = some number →
    -2 ^ 63 ≤ signedDecimal number ∧ signedDecimal number < 2 ^ 64
  bind : ∀ value octets port, bindField isSpace json = some value → isValidBind value →
    matchBind value = some (octets, port) → ∀ octet ∈ octets, NoLeadingZero octet

/-! ### What the expressions capture -/

/-- What a field is found to hold was captured somewhere in the text. -/
theorem capture_of_findField {name : String} {capture : List Char → Option (List Char)}
    {text value : List Char} (found : findField isSpace name capture text = some value) :
    ∃ rest, capture rest = some value := by
  induction text with
  | nil => cases found
  | cons char rest ih =>
      rw [findField] at found
      split at found
      · rename_i matched
        rw [matchField] at matched
        split at matched
        · split at matched
          · cases found
            exact ⟨_, matched⟩
          · cases matched
        · cases matched
      · exact ih found

/-- What the digits' expression captures is a number. -/
theorem isDecimal_of_captureDigits {text digits : List Char}
    (captured : captureDigits text = some digits) : IsDecimal digits := by
  simp only [captureDigits] at captured
  split at captured
  · cases captured
  · rename_i filled
    cases captured
    exact ⟨fun empty => filled (List.isEmpty_iff.mpr empty),
      fun char member => List.mem_takeWhile_imp member⟩

/-- The user in the file is a number, whatever the rest of it. -/
theorem isDecimal_of_uidField {json digits : List Char}
    (found : uidField isSpace json = some digits) : IsDecimal digits := by
  obtain ⟨rest, captured⟩ := capture_of_findField isSpace found
  exact isDecimal_of_captureDigits captured

/-- A delay is a run of digits, or one with a minus sign in front of it. -/
theorem form_of_dbPullDelayField {json number : List Char}
    (found : dbPullDelayField isSpace json = some number) :
    IsDecimal number ∨ ∃ digits, number = '-' :: digits ∧ IsDecimal digits := by
  obtain ⟨rest, captured⟩ := capture_of_findField isSpace found
  unfold captureInteger at captured
  split at captured
  · obtain ⟨digits, taken, rfl⟩ := Option.map_eq_some_iff.mp captured
    exact .inr ⟨digits, rfl, isDecimal_of_captureDigits taken⟩
  · exact .inl (isDecimal_of_captureDigits captured)

/-! ### Numbers -/

/-- A variable that is set to a solid text is accepted exactly when the text parses. -/
theorem optional_accepts {α : Type} {parse : List Char → Option α} {message : Config.Panic}
    {env : Config.Environment} {name : String} {text : List Char}
    (set : env name = some (String.ofList text)) (filled : text ≠ [])
    (solid : ∀ char ∈ text, isWhitespace char = false) :
    (∃ value, Config.optional parse message env name = .ok (some value)) ↔
      (parse text).isSome := by
  have shown : text.isEmpty = false := List.isEmpty_eq_false_iff.mpr filled
  simp only [Config.optional, set, String.toList_ofList, trim_eq_self solid, shown]
  cases parse text with
  | none => simp [Config.expect, Functor.map, Except.map]
  | some value => simp [Config.expect, Functor.map, Except.map]

/-- What the script exports for a delay of digits is accepted up to the range of `u64`. -/
theorem exportedDelay_decimal {digits : List Char} (number : IsDecimal digits) :
    (parseU64 (if isNotPositive digits then "1000".toList else digits)).isSome ↔
      -2 ^ 63 ≤ signedDecimal digits ∧ signedDecimal digits < 2 ^ 64 := by
  rw [signedDecimal_decimal number]
  by_cases small : isNotPositive digits
  · rw [if_pos small]
    simp only [isNotPositive, parseSigned_decimal number] at small
    split at small
    · rename_i bounded
      refine ⟨fun _ => ⟨by omega, by omega⟩, fun _ => by decide⟩
    · cases small
  · rw [if_neg small, parseU64_isSome number]
    omega

/-- A negative delay is replaced only down to the range of the shell. -/
theorem exportedDelay_minus {digits : List Char} (number : IsDecimal digits) :
    (parseU64 (if isNotPositive ('-' :: digits) then "1000".toList else '-' :: digits)).isSome ↔
      -2 ^ 63 ≤ signedDecimal ('-' :: digits) ∧ signedDecimal ('-' :: digits) < 2 ^ 64 := by
  have value : signedDecimal ('-' :: digits) = -(decimal digits : Int) := rfl
  rw [value, isNotPositive, parseSigned_minus number]
  by_cases bounded : decimal digits ≤ 2 ^ 63
  · rw [if_pos bounded, Option.any_some, if_pos (by simp)]
    refine ⟨fun _ => ⟨by omega, by omega⟩, fun _ => by decide⟩
  · rw [if_neg bounded, Option.any_none, if_neg Bool.false_ne_true, parseU64_minus]
    simp only [Option.isSome_none, Bool.false_eq_true, false_iff]
    omega

/-! ### Addresses -/

/-- What the pattern for so many digits matches is a number of at most that length. -/
theorem isDecimal_of_isDigits {most : Nat} {text : List Char} (matched : isDigits most text) :
    IsDecimal text ∧ text.length ≤ most := by
  simp only [isDigits, decide_eq_true_eq, List.isEmpty_iff, List.all_eq_true] at matched
  exact ⟨⟨matched.1, matched.2.2⟩, matched.2.1⟩

/-- The parts of a text that matches the expression of an address. -/
theorem form_of_matchBind {value port : List Char} {octets : List (List Char)}
    (matched : matchBind value = some (octets, port)) :
    ∃ first others, octets = first :: others ∧ octets.length = 4 ∧
      (∀ octet ∈ octets, IsDecimal octet ∧ octet.length ≤ 3) ∧ IsDecimal port ∧
      value = first ++ (others.flatMap ('.' :: ·) ++ ':' :: port) := by
  unfold matchBind at matched
  split at matched
  · rename_i ip end_ halves
    simp only at matched
    split at matched
    · rename_i parts
      obtain ⟨four, each, digits⟩ := parts
      cases matched
      have whole := split_join halves
      cases groups : split '.' ip with
      | nil => exact absurd groups (split_ne_nil '.' ip)
      | cons first others =>
          refine ⟨first, others, rfl, groups ▸ four, ?_, (isDecimal_of_isDigits digits).1, ?_⟩
          · intro octet member
            exact isDecimal_of_isDigits (List.all_eq_true.mp each octet (groups ▸ member))
          · rw [whole, split_join groups]
            simp
    · cases matched
  · cases matched

/-- The server parses a valid address exactly when no octet has a leading zero. -/
theorem parseSocketAddr_of_isValidBind {value port : List Char} {octets : List (List Char)}
    (valid : isValidBind value) (matched : matchBind value = some (octets, port)) :
    (parseSocketAddr ipv6 value).isSome ↔ ∀ octet ∈ octets, NoLeadingZero octet := by
  obtain ⟨first, others, rfl, four, numbers, portNumber, rfl⟩ := form_of_matchBind matched
  simp only [isValidBind, matched, decide_eq_true_eq, List.all_eq_true] at valid
  obtain ⟨-, small, bytes⟩ := valid
  rw [parseSocketAddr_isSome ipv6 four numbers portNumber]
  constructor
  · rintro ⟨each, -⟩ octet member
    exact (each octet member).2
  · intro each
    exact ⟨fun octet member => ⟨bytes octet member, each octet member⟩, small⟩

/-- The default address is one that the server takes. -/
theorem parseSocketAddr_default : (parseSocketAddr ipv6 defaultArisaBind).isSome := by
  have matched : matchBind defaultArisaBind =
      some ([['0'], ['0'], ['0'], ['0']], "3000".toList) := by decide
  exact (parseSocketAddr_of_isValidBind ipv6 (by decide) matched).mpr (by decide)

/-- The address that the script exports is accepted exactly when the one it has read has no
leading zero in an octet, or is no valid address and replaced. -/
theorem exportedBind_iff (value : List Char) :
    (parseSocketAddr ipv6 (if isValidBind value then value else defaultArisaBind)).isSome ↔
      ∀ octets port, isValidBind value → matchBind value = some (octets, port) →
        ∀ octet ∈ octets, NoLeadingZero octet := by
  by_cases valid : isValidBind value
  · rw [if_pos valid]
    constructor
    · intro parsed octets port _ matched
      exact (parseSocketAddr_of_isValidBind ipv6 valid matched).mp parsed
    · intro each
      cases matched : matchBind value with
      | none => simp [isValidBind, matched] at valid
      | some parts =>
          exact (parseSocketAddr_of_isValidBind ipv6 valid matched).mpr (each _ _ valid matched)
  · rw [if_neg valid]
    exact ⟨fun _ _ _ value => absurd value valid, fun _ => parseSocketAddr_default ipv6⟩

/-! ### The three variables -/

variable {isSpace}

/-- What is prepared from a text that is not empty. -/
theorem exported {text : List Char} {env : Config.Environment}
    (prepared : prepareArisaEnvironment isSpace text = some env) :
    ∃ config, loadArisaConfig isSpace text = some config ∧
      env "ARISA_UID" = some (String.ofList config.uid) ∧
      env "ARISA_DB_PULL_DELAY" = some (String.ofList config.dbPullDelay) ∧
      env "ARISA_BIND" = some (String.ofList config.bind) := by
  obtain ⟨config, loaded, rfl⟩ := Option.map_eq_some_iff.mp prepared
  exact ⟨config, loaded, rfl, rfl, rfl⟩

/-- The fields of a loaded configuration. -/
theorem loaded_fields {text : List Char} {config : ArisaConfig}
    (loaded : loadArisaConfig isSpace text = some config) :
    let bind := (bindField isSpace (readJson text)).getD defaultArisaBind
    let delay := (dbPullDelayField isSpace (readJson text)).getD defaultArisaDbPullDelay
    config.uid = (uidField isSpace (readJson text)).getD defaultArisaUid ∧
      config.dbPullDelay = (if isNotPositive delay then "1000".toList else delay) ∧
      config.bind = if isValidBind bind then bind else defaultArisaBind := by
  unfold loadArisaConfig at loaded
  simp only at loaded
  split at loaded
  · cases loaded
  · cases loaded
    exact ⟨rfl, rfl, rfl⟩

/-! ### What the shell makes of the variables -/

/-- A character that stands for itself in a shell command. -/
def isPlain (char : Char) : Bool :=
  char.isAlphanum || [':', '.', '_', '-'].contains char

/-- A digit needs no quotes. -/
theorem isPlain_of_isDigit {char : Char} (digit : char.isDigit = true) : isPlain char = true := by
  simp [isPlain, Char.isAlphanum, digit]

/-- A number needs no quotes. -/
theorem plain_of_isDecimal {text : List Char} (number : IsDecimal text) :
    ∀ char ∈ text, isPlain char = true :=
  fun char member => isPlain_of_isDigit (number.digits char member)

/-- Plain pieces make a plain text, around a plain separator. -/
theorem plain_of_pieces {separator : Char} {first : List Char} {others : List (List Char)}
    (plain : isPlain separator = true)
    (each : ∀ piece ∈ first :: others, ∀ char ∈ piece, isPlain char = true) :
    ∀ char ∈ first ++ others.flatMap (separator :: ·), isPlain char = true := by
  intro char member
  rcases List.mem_append.mp member with here | later
  · exact each first (List.mem_cons_self ..) char here
  · obtain ⟨piece, listed, inside⟩ := List.mem_flatMap.mp later
    rcases List.mem_cons.mp inside with same | inside
    · exact same ▸ plain
    · exact each piece (List.mem_cons_of_mem _ listed) char inside

/-- An address that the script lets through needs none. -/
theorem plain_of_isValidBind {value : List Char} (valid : isValidBind value) :
    ∀ char ∈ value, isPlain char = true := by
  cases matched : matchBind value with
  | none => simp [isValidBind, matched] at valid
  | some parts =>
      obtain ⟨octets, port⟩ := parts
      obtain ⟨first, others, rfl, -, numbers, portNumber, rfl⟩ := form_of_matchBind matched
      intro char member
      rw [← List.append_assoc] at member
      rcases List.mem_append.mp member with address | rest
      · exact plain_of_pieces (by decide)
          (fun octet listed => plain_of_isDecimal (numbers octet listed).1) char address
      · rcases List.mem_cons.mp rest with rfl | inside
        · decide
        · exact plain_of_isDecimal portNumber char inside

/-- A package name needs none. -/
theorem plain_of_isPackageName {name : List Char} (matched : isPackageName name) :
    ∀ char ∈ name, isPlain char = true := by
  cases name with
  | nil => exact nofun
  | cons first rest =>
      simp only [isPackageName, Bool.and_eq_true, List.all_eq_true, Bool.or_eq_true,
        beq_iff_eq] at matched
      obtain ⟨letter, others⟩ := matched
      intro char member
      rcases List.mem_cons.mp member with rfl | inside
      · simp [isPlain, Char.isAlphanum, letter]
      · rcases others char inside with named | rfl
        · simp [isPlain, named]
        · decide

/-- What the script lets through as a package needs none. -/
theorem plain_of_isValidCallingPackage {value : List Char}
    (valid : isValidCallingPackage value) : ∀ char ∈ value, isPlain char = true := by
  simp only [isValidCallingPackage, decide_eq_true_eq, List.all_eq_true] at valid
  cases names : split '.' value with
  | nil => exact absurd names (split_ne_nil '.' value)
  | cons first others =>
      rw [split_join names]
      refine plain_of_pieces (by decide) fun name listed => ?_
      exact plain_of_isPackageName (valid.2 name (names ▸ listed))

/-- Every value that is exported reaches the server as it stands in the command. -/
theorem variables_plain {text : List Char} {config : ArisaConfig}
    (loaded : loadArisaConfig isSpace text = some config) :
    ∀ entry ∈ config.variables, ∀ char ∈ entry.2, isPlain char = true := by
  unfold loadArisaConfig at loaded
  simp only at loaded
  split at loaded
  · cases loaded
  · cases loaded
    simp only [ArisaConfig.variables, List.forall_mem_cons, List.not_mem_nil, false_implies,
      implies_true, and_true]
    refine ⟨?_, ?_, ?_, ?_⟩
    · split
      · next valid => exact plain_of_isValidBind valid
      · exact List.all_eq_true.mp (by decide)
    · cases found : uidField isSpace (readJson text) with
      | none => exact List.all_eq_true.mp (by decide)
      | some digits => exact plain_of_isDecimal (isDecimal_of_uidField isSpace found)
    · split
      · next valid => exact plain_of_isValidCallingPackage valid
      · exact List.all_eq_true.mp (by decide)
    · split
      · exact List.all_eq_true.mp (by decide)
      · cases found : dbPullDelayField isSpace (readJson text) with
        | none => exact List.all_eq_true.mp (by decide)
        | some number =>
            rcases form_of_dbPullDelayField isSpace found with digits | ⟨digits, rfl, decimals⟩
            · exact plain_of_isDecimal digits
            · exact List.forall_mem_cons.mpr ⟨by decide, plain_of_isDecimal decimals⟩

/-! ### Acceptance -/

/-- The script sets no bound to the user, so the server's type alone decides. -/
theorem uid_accepted_iff {env : Config.Environment} {json : List Char}
    (set : env "ARISA_UID" = some (String.ofList ((uidField isSpace json).getD defaultArisaUid))) :
    (∃ uid, Config.optionalI32 env "ARISA_UID" = .ok (some uid)) ↔
      ∀ digits, uidField isSpace json = some digits → decimal digits < 2 ^ 31 := by
  cases found : uidField isSpace json with
  | none =>
      rw [found] at set
      have zero : IsDecimal defaultArisaUid := isDecimal_of_all (by decide) (by decide)
      rw [Config.optionalI32, optional_accepts set zero.nonempty zero.solid]
      exact ⟨fun _ digits absent => absurd absent (by simp), fun _ => by decide⟩
  | some digits =>
      rw [found] at set
      have number := isDecimal_of_uidField isSpace found
      rw [Config.optionalI32, optional_accepts set number.nonempty number.solid,
        Option.getD_some, parseI32_isSome number]
      simp

/-- A delay is a solid text, and so is what replaces it. -/
theorem delay_solid {number : List Char}
    (form : IsDecimal number ∨ ∃ digits, number = '-' :: digits ∧ IsDecimal digits) :
    (if isNotPositive number then "1000".toList else number) ≠ [] ∧
      ∀ char ∈ (if isNotPositive number then "1000".toList else number),
        isWhitespace char = false := by
  split
  · have second : IsDecimal "1000".toList := isDecimal_of_all (by decide) (by decide)
    exact ⟨second.nonempty, second.solid⟩
  · rcases form with digits | ⟨digits, rfl, decimals⟩
    · exact ⟨digits.nonempty, digits.solid⟩
    · exact ⟨List.cons_ne_nil _ _, List.forall_mem_cons.mpr ⟨by decide, decimals.solid⟩⟩

/-- The script replaces what its integers can see to be no delay; the rest must fit the server's
type. -/
theorem delay_accepted_iff {env : Config.Environment} {json : List Char}
    (set : env "ARISA_DB_PULL_DELAY" =
      some (String.ofList
        (if isNotPositive ((dbPullDelayField isSpace json).getD defaultArisaDbPullDelay) then
          "1000".toList
        else (dbPullDelayField isSpace json).getD defaultArisaDbPullDelay))) :
    (∃ delay, Config.optionalU64 env "ARISA_DB_PULL_DELAY" = .ok (some delay)) ↔
      ∀ number, dbPullDelayField isSpace json = some number →
        -2 ^ 63 ≤ signedDecimal number ∧ signedDecimal number < 2 ^ 64 := by
  cases found : dbPullDelayField isSpace json with
  | none =>
      rw [found, Option.getD_none] at set
      have usual : IsDecimal defaultArisaDbPullDelay := isDecimal_of_all (by decide) (by decide)
      obtain ⟨filled, solid⟩ := delay_solid (.inl usual)
      rw [Config.optionalU64, optional_accepts set filled solid]
      exact ⟨fun _ number absent => absurd absent (by simp), fun _ => by decide⟩
  | some number =>
      rw [found, Option.getD_some] at set
      have form := form_of_dbPullDelayField isSpace found
      obtain ⟨filled, solid⟩ := delay_solid form
      rw [Config.optionalU64, optional_accepts set filled solid]
      rcases form with digits | ⟨digits, rfl, decimals⟩
      · rw [exportedDelay_decimal digits]
        simp
      · rw [exportedDelay_minus decimals]
        simp

/-- The script replaces what it cannot match; of the rest, the server refuses leading zeros. -/
theorem bind_accepted_iff {env : Config.Environment} {json : List Char}
    (set : env "ARISA_BIND" =
      some (String.ofList
        (if isValidBind ((bindField isSpace json).getD defaultArisaBind) then
          (bindField isSpace json).getD defaultArisaBind
        else defaultArisaBind))) :
    (∃ address, parseSocketAddr ipv6 ((env "ARISA_BIND").getD Config.defaultBind).toList =
        some address) ↔
      ∀ value octets port, bindField isSpace json = some value → isValidBind value →
        matchBind value = some (octets, port) → ∀ octet ∈ octets, NoLeadingZero octet := by
  rw [set, Option.getD_some, String.toList_ofList, ← Option.isSome_iff_exists, exportedBind_iff]
  cases bindField isSpace json with
  | none =>
      refine ⟨fun _ value octets port absent => absurd absent (by simp), ?_⟩
      intro _
      exact (exportedBind_iff ipv6 defaultArisaBind).mp (by
        rw [ite_self]
        exact parseSocketAddr_default ipv6)
  | some value =>
      refine ⟨?_, fun each octets port => each value octets port rfl⟩
      intro each other octets port same
      cases same
      exact each octets port

/-- The server accepts what the control script exports exactly when the fields of the
configuration text are startable. -/
theorem accepted_iff {text : List Char} {env : Config.Environment}
    (prepared : prepareArisaEnvironment isSpace text = some env) :
    Accepted ipv6 env ↔ Startable isSpace (readJson text) := by
  obtain ⟨config, loaded, uidSet, delaySet, bindSet⟩ := exported prepared
  obtain ⟨uid, delay, bind⟩ := loaded_fields loaded
  rw [uid] at uidSet
  rw [delay] at delaySet
  rw [bind] at bindSet
  constructor
  · intro accepted
    exact {
      uid := (uid_accepted_iff uidSet).mp accepted.uid
      dbPullDelay := (delay_accepted_iff delaySet).mp accepted.dbPullDelay
      bind := (bind_accepted_iff ipv6 bindSet).mp accepted.bind }
  · intro startable
    exact {
      uid := (uid_accepted_iff uidSet).mpr startable.uid
      dbPullDelay := (delay_accepted_iff delaySet).mpr startable.dbPullDelay
      bind := (bind_accepted_iff ipv6 bindSet).mpr startable.bind }

/-- A refused user is enough to end the server. -/
theorem not_accepted_of_uid {env : Config.Environment} (message : Config.Panic)
    (refused : Config.optionalI32 env "ARISA_UID" = .error message) : ¬ Accepted ipv6 env := by
  intro accepted
  obtain ⟨uid, parsed⟩ := accepted.uid
  rw [refused] at parsed
  cases parsed

/-- `[[:space:]]` of the C locale. -/
def cSpace (char : Char) : Bool :=
  char = ' ' || (9 ≤ char.toNat && char.toNat ≤ 13)

def noIpv6 : Reader Empty := fun _ => none

/-- A file as `write_arisa_config` prints it. -/
def writtenConfig : List Char :=
  ("\x7b\"ARISA_BIND\":\"127.0.0.1:3000\",\"ARISA_UID\":10," ++
    "\"ARISA_CALLING_PKG\":\"com.termux\",\"ARISA_DB_PULL_DELAY\":50\x7d\n").toList

/-- Settings that the menu may have written can be started from. -/
theorem startable_written : Startable cSpace (readJson writtenConfig) where
  uid digits found := by
    have read : uidField cSpace (readJson writtenConfig) = some "10".toList := by decide
    rw [read] at found
    cases found
    decide
  dbPullDelay number found := by
    have read : dbPullDelayField cSpace (readJson writtenConfig) = some "50".toList := by decide
    rw [read] at found
    cases found
    decide
  bind value octets port found valid matched := by
    have read : bindField cSpace (readJson writtenConfig) = some "127.0.0.1:3000".toList := by
      decide
    rw [read] at found
    cases found
    have parts : matchBind "127.0.0.1:3000".toList =
        some (["127".toList, "0".toList, "0".toList, "1".toList], "3000".toList) := by decide
    rw [parts] at matched
    cases matched
    decide

/-- The server takes the variables that are made of such settings. -/
theorem accepted_written :
    ∃ env, prepareArisaEnvironment cSpace writtenConfig = some env ∧ Accepted noIpv6 env :=
  ⟨_, rfl, (accepted_iff noIpv6 rfl).mpr startable_written⟩

/-- A user id one above the range of `i32` is exported, and refused by the server. -/
theorem largeUid_refused :
    ∃ env, prepareArisaEnvironment cSpace "\x7b\"ARISA_UID\":2147483648\x7d".toList = some env ∧
      Config.optionalI32 env "ARISA_UID" = .error "invalid integer environment variable" ∧
      ¬ Accepted noIpv6 env :=
  ⟨_, rfl, by decide,
    not_accepted_of_uid noIpv6 "invalid integer environment variable" (by decide)⟩

end Arisa.Control
