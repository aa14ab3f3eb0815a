import Arisa.Config.Load
import Arisa.Std.Decimal

/-!
# The environment that the control script prepares

`load_arisa_config` and `prepare_arisa_environment` of `arisa_control`. Ranges of
characters are those of ASCII; the class `[[:space:]]` depends on the locale and
is the parameter `isSpace`.
-/

namespace Arisa.Control

open Arisa.Std

def defaultArisaBind : List Char := "0.0.0.0:3000".toList
def defaultArisaUid : List Char := "0".toList
def defaultArisaCallingPkg : List Char := "com.android.shell".toList
def defaultArisaDbPullDelay : List Char := "100".toList

/-! ### The fields of the configuration file -/

section Fields

variable (isSpace : Char → Bool)

/-- The expression of a field at one place: the quoted name, a colon and what `capture` takes. -/
def matchField (name : String) (capture : List Char → Option (List Char)) (text : List Char) :
    Option (List Char) :=
  let quoted := '"' :: name.toList ++ ['"']
  if quoted.isPrefixOf text then
    match (text.drop quoted.length).dropWhile isSpace with
    | ':' :: value => capture (value.dropWhile isSpace)
    | _ => none
  else none

/-- `[[ "$json" =~ ... ]]`: the leftmost match counts. -/
def findField (name : String) (capture : List Char → Option (List Char)) :
    List Char → Option (List Char)
  | [] => none
  | char :: rest =>
      match matchField isSpace name capture (char :: rest) with
      | some value => some value
      | none => findField name capture rest

/-- `"([^"]*)"`. -/
def captureQuoted : List Char → Option (List Char)
  | '"' :: text => if '"' ∈ text then some (text.takeWhile (· ≠ '"')) else none
  | _ => none

/-- `([0-9]+)`. -/
def captureDigits (text : List Char) : Option (List Char) :=
  let digits := text.takeWhile Char.isDigit
  if digits.isEmpty then none else some digits

/-- `(-?[0-9]+)`. -/
def captureInteger (text : List Char) : Option (List Char) :=
  match text with
  | '-' :: rest => (captureDigits rest).map ('-' :: ·)
  | _ => captureDigits text

def bindField : List Char → Option (List Char) :=
  findField isSpace "ARISA_BIND" captureQuoted

def uidField : List Char → Option (List Char) :=
  findField isSpace "ARISA_UID" captureDigits

def callingPkgField : List Char → Option (List Char) :=
  findField isSpace "ARISA_CALLING_PKG" captureQuoted

def dbPullDelayField : List Char → Option (List Char) :=
  findField isSpace "ARISA_DB_PULL_DELAY" captureInteger

end Fields

/-! ### Validation -/

/-- `[0-9]{1,most}`. -/
def isDigits (most : Nat) (text : List Char) : Bool :=
  ¬ text.isEmpty ∧ text.length ≤ most ∧ text.all Char.isDigit

/-- The groups of `^([0-9]{1,3}\.){3}[0-9]{1,3}:([0-9]{1,5})$`: the octets and the port. -/
def matchBind (value : List Char) : Option (List (List Char) × List Char) :=
  match split ':' value with
  | [ip, port] =>
      let octets := split '.' ip
      if octets.length = 4 ∧ octets.all (isDigits 3) ∧ isDigits 5 port then some (octets, port)
      else none
  | _ => none

def isValidBind (value : List Char) : Bool :=
  match matchBind value with
  | none => false
  | some (octets, port) =>
      1 ≤ decimal port ∧ decimal port ≤ 65535 ∧ octets.all fun octet => decimal octet ≤ 255

/-- `[A-Za-z][A-Za-z0-9_]*`. -/
def isPackageName : List Char → Bool
  | [] => false
  | char :: rest => char.isAlpha && rest.all fun char => char.isAlphanum || char == '_'

def isValidCallingPackage (value : List Char) : Bool :=
  let names := split '.' value
  2 ≤ names.length ∧ names.all isPackageName

/-- `[ "$value" -le 0 ]`: false as well when the value is no signed 64-bit integer, as the
test then fails with an error. -/
def isNotPositive (value : List Char) : Bool :=
  (parseSigned (2 ^ 63) value).any (· ≤ 0)

/-! ### Loading and exporting -/

structure ArisaConfig where
  bind : List Char
  uid : List Char
  callingPkg : List Char
  dbPullDelay : List Char
deriving DecidableEq

/-- `$(... | tr -d '\r\n')`; a command substitution drops null characters as well. -/
def readJson (text : List Char) : List Char :=
  text.filter fun char => char ≠ '\r' ∧ char ≠ '\n' ∧ char ≠ '\x00'

/-- `text` is what `cat` prints of the configuration file: nothing when it fails. -/
def loadArisaConfig (isSpace : Char → Bool) (text : List Char) : Option ArisaConfig :=
  let json := readJson text
  if json.isEmpty then none
  else
    let bind := (bindField isSpace json).getD defaultArisaBind
    let uid := (uidField isSpace json).getD defaultArisaUid
    let callingPkg := (callingPkgField isSpace json).getD defaultArisaCallingPkg
    let dbPullDelay := (dbPullDelayField isSpace json).getD defaultArisaDbPullDelay
    some {
      bind := if isValidBind bind then bind else defaultArisaBind
      uid := uid
      callingPkg := if isValidCallingPackage callingPkg then callingPkg else defaultArisaCallingPkg
      dbPullDelay := if isNotPositive dbPullDelay then "1000".toList else dbPullDelay }

/-- The variables of `ARISA_ENV_PREFIX`. -/
def ArisaConfig.variables (config : ArisaConfig) : List (String × List Char) :=
  [("ARISA_BIND", config.bind), ("ARISA_UID", config.uid), ("ARISA_CALLING_PKG", config.callingPkg),
    ("ARISA_DB_PULL_DELAY", config.dbPullDelay)]

/-- The environment in which `arisa_start` runs the server. -/
def prepareArisaEnvironment (isSpace : Char → Bool) (text : List Char) :
    Option Config.Environment :=
  (loadArisaConfig isSpace text).map fun config name =>
    (config.variables.lookup name).map String.ofList

end Arisa.Control
