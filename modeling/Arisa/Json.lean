import Arisa.Std.Double

/-!
# JSON values

`serde_json::Value` and the accessors the server calls. Reading a text and
printing a value are left to the library, as the parameter `Serde`.
-/

namespace Arisa

/-- `serde_json::Number`: an integer is stored unsigned unless it is negative. -/
inductive Number where
  | posInt (value : UInt64)
  | negInt (value : Int64)
  | float (bits : UInt64)
deriving DecidableEq

/-- `Number::from(i64)`. -/
def Number.ofInt64 (value : Int64) : Number :=
  if value.toInt < 0 then .negInt value else .posInt (UInt64.ofNat value.toInt.toNat)

inductive Value where
  | null
  | bool (value : Bool)
  | number (value : Number)
  | string (value : String)
  | array (values : List Value)
  | object (members : List (String × Value))

/-- `serde_json::from_str::<Value>` and `Value::to_string`. -/
structure Serde where
  fromStr : String → Except String Value
  toString : Value → String

namespace Value

/-- `value.get(field)`. -/
def get (value : Value) (field : String) : Option Value :=
  match value with
  | .object members => members.lookup field
  | _ => none

def asI64 : Value → Option Int64
  | .number (.posInt value) =>
      if value.toNat < 2 ^ 63 then some (Int64.ofNat value.toNat) else none
  | .number (.negInt value) => some value
  | _ => none

/-- A double by its bits. -/
def asF64 : Value → Option UInt64
  | .number (.posInt value) => some (Std.natToF64 value.toNat)
  | .number (.negInt value) => some (Std.intToF64 value.toInt)
  | .number (.float bits) => some bits
  | _ => none

def asU64 : Value → Option UInt64
  | .number (.posInt value) => some value
  | _ => none

def asStr : Value → Option String
  | .string value => some value
  | _ => none

def asArray : Value → Option (List Value)
  | .array values => some values
  | _ => none

/-- An integer is read back as it was put in. -/
@[simp] theorem asI64_ofInt64 (value : Int64) :
    (number (.ofInt64 value)).asI64 = some value := by
  unfold Number.ofInt64
  split
  · rfl
  · rename_i nonnegative
    have small := value.toInt_lt
    have kept : (UInt64.ofNat value.toInt.toNat).toNat = value.toInt.toNat :=
      UInt64.toNat_ofNat_of_lt' (by simp only [UInt64.size]; omega)
    rw [asI64, kept, if_pos (by omega)]
    congr 1
    apply Int64.toInt_inj.mp
    rw [Int64.toInt_ofNat_of_lt (by omega)]
    omega

end Value

/-- `serde_json::from_str(text).ok()`. -/
def Serde.read (serde : Serde) (text : String) : Option Value :=
  (serde.fromStr text).toOption

end Arisa
