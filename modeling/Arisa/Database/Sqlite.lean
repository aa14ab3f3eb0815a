import Arisa.Std.BigEndian
import Mathlib.Data.List.Dedup

/-!
# SQLite values and their conversion

`rusqlite` values as a row yields them, the SQL comparison `=` and the `FromSql`
conversions of the server. Nothing here knows a table.
-/

namespace Arisa.Database

open Arisa.Std

inductive SqlValue where
  | null
  | integer (value : Int64)
  /-- A double by its bits; SQLite stores no NaN. -/
  | real (bits : UInt64)
  | text (value : String)
  /-- A text column whose bytes are not UTF-8. -/
  | invalidText (bytes : Bytes)
  | blob (bytes : Bytes)
deriving DecidableEq

/-- `rusqlite::Error`, as far as the server can meet it. -/
inductive SqliteError where
  | queryReturnedNoRows
  | invalidColumnType (index : Nat)
  | integralValueOutOfRange (index : Nat) (value : Int64)
  | utf8Error (index : Nat)
  | sqliteFailure (message : String)
deriving DecidableEq

namespace SqlValue

/-- The value of a finite double times `2 ^ 1075`; `none` for an infinity. -/
def scaledReal (bits : UInt64) : Option Int :=
  let exponent := bits.toNat / 2 ^ 52 % 2 ^ 11
  let fraction := bits.toNat % 2 ^ 52
  if exponent = 2 ^ 11 - 1 then
    none
  else
    let significand := if exponent = 0 then fraction else fraction + 2 ^ 52
    let magnitude : Nat := significand * 2 ^ max exponent 1
    some (if bits.toNat / 2 ^ 63 = 0 then magnitude else -magnitude)

/-- The number of a positive normal double. -/
theorem scaledReal_of_parts {bits : UInt64} {exponent fraction : Nat}
    (same : bits.toNat = exponent * 2 ^ 52 + fraction) (inside : fraction < 2 ^ 52)
    (normal : 0 < exponent) (finite : exponent < 2 ^ 11 - 1) :
    scaledReal bits = some (((fraction + 2 ^ 52) * 2 ^ exponent : Nat) : Int) := by
  have high : bits.toNat / 2 ^ 52 % 2 ^ 11 = exponent := by omega
  have low : bits.toNat % 2 ^ 52 = fraction := by omega
  have positive : bits.toNat / 2 ^ 63 = 0 := by omega
  unfold scaledReal
  simp only [high, low, positive, Nat.ne_of_lt finite, Nat.ne_of_gt normal, if_true, if_false,
    Nat.max_eq_left normal]

/-- A stored real equals an integer when the numbers are the same. -/
def realEqualsInteger (bits : UInt64) (value : Int64) : Bool :=
  match scaledReal bits with
  | some scaled => scaled = value.toInt * 2 ^ 1075
  | none => false

def realEqualsReal (left right : UInt64) : Bool :=
  left = right || (scaledReal left = some 0 && scaledReal right = some 0)

/-- `left = right` in SQL is true; a comparison with NULL is not. The compared
columns are declared INTEGER, so that no text is converted. -/
def equals : SqlValue → SqlValue → Bool
  | .integer left, .integer right => left = right
  | .integer left, .real right => realEqualsInteger right left
  | .real left, .integer right => realEqualsInteger left right
  | .real left, .real right => realEqualsReal left right
  | .text left, .text right => left = right
  | .invalidText left, .invalidText right => left = right
  | .blob left, .blob right => left = right
  | _, _ => false

/-- `value IN (?, ?, ...)` with integer parameters. -/
def isIn (value : SqlValue) (keys : List Int64) : Bool :=
  keys.any fun key => value.equals (.integer key)

variable (index : Nat)

/-- `row.get::<_, i64>(index)`, given the value of the column. -/
def toI64 : SqlValue → Except SqliteError Int64
  | .integer value => .ok value
  | _ => .error (.invalidColumnType index)

def toI32 : SqlValue → Except SqliteError Int32
  | .integer value =>
      if -2 ^ 31 ≤ value.toInt ∧ value.toInt < 2 ^ 31 then .ok (Int32.ofInt value.toInt)
      else .error (.integralValueOutOfRange index value)
  | _ => .error (.invalidColumnType index)

def toU32 : SqlValue → Except SqliteError UInt32
  | .integer value =>
      if 0 ≤ value.toInt ∧ value.toInt < 2 ^ 32 then .ok (UInt32.ofNat value.toInt.toNat)
      else .error (.integralValueOutOfRange index value)
  | _ => .error (.invalidColumnType index)

def toText : SqlValue → Except SqliteError String
  | .text value => .ok value
  | .invalidText _ => .error (.utf8Error index)
  | _ => .error (.invalidColumnType index)

/-- `row.get::<_, Option<T>>(index)`. -/
def toOption {α : Type} (convert : SqlValue → Except SqliteError α) :
    SqlValue → Except SqliteError (Option α)
  | .null => .ok none
  | value => (convert value).map some

/-- Only an integer is read as one. -/
theorem eq_integer_of_toI64 {value : SqlValue} {found : Int64}
    (read : value.toI64 index = .ok found) : value = .integer found := by
  cases value with
  | integer stored =>
      cases read
      rfl
  | _ => cases read

/-- Two integers are equal to SQLite if they are the same. -/
@[simp] theorem integer_equals_integer (left right : Int64) :
    (SqlValue.integer left).equals (.integer right) = true ↔ left = right := by
  simp [equals]

end SqlValue
end Arisa.Database
