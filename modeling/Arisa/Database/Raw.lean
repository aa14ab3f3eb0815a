import Arisa.Database.Operation
import Arisa.Json
import Arisa.Std.BigEndian
import Arisa.Std.Utf8

/-!
# Raw queries

`raw.rs`. What SQLite makes of a query text is a parameter: the names of the
result columns and the rows for given parameters. So is the crate `base64`.
-/

namespace Arisa.Database

open Arisa.Std DbM

/-- The engine `STANDARD` of the crate: reading a text undoes its writing. -/
structure Base64 where
  encode : Bytes → String
  decode : String → Option Bytes
  decode_encode : ∀ bytes, decode (encode bytes) = some bytes

/-- A prepared statement. -/
structure Statement where
  columnNames : List String
  query : List SqlValue → Tables → Except SqliteError (List (List SqlValue))

/-- `connection.prepare(sql)`. -/
abbrev Prepare := String → Except SqliteError Statement

/-- `json!(value)` of a double: an infinity has no JSON number. -/
def realToJson (bits : UInt64) : Value :=
  if bits.toNat / 2 ^ 52 % 2 ^ 11 = 2 ^ 11 - 1 then .null else .number (.float bits)

section Rows

variable (base64 : Base64)

def sqliteValueToJson : SqlValue → Value
  | .null => .null
  | .integer value => .string (toString value.toInt)
  | .real bits => realToJson bits
  | .text value => .string value
  | .invalidText bytes => .string (String.ofList (fromUtf8Lossy bytes))
  | .blob bytes => .object [("blob_base64", .string (base64.encode bytes))]

/-- `object.insert(name, value)`: the members are ordered by name, and a name that is there
already gets the new value. -/
def insertMember (name : String) (value : Value) :
    List (String × Value) → List (String × Value)
  | [] => [(name, value)]
  | (other, kept) :: rest =>
      if name = other then (name, value) :: rest
      else if name < other then (name, value) :: (other, kept) :: rest
      else (other, kept) :: insertMember name value rest

/-- The object of a row, column by column. -/
def rowMembers (row : List SqlValue) :
    Nat → List String → List (String × Value) → Except SqliteError (List (String × Value))
  | _, [], members => .ok members
  | index, name :: names, members =>
      match row[index]? with
      | none => .error (.invalidColumnType index)
      | some value =>
          rowMembers row (index + 1) names
            (insertMember name (sqliteValueToJson base64 value) members)

def rowObject (columns : List String) (row : List SqlValue) : Except SqliteError Value :=
  (rowMembers base64 row 0 columns []).map .object

/-- `while output.len() < limit`: rows beyond the limit are not asked for. -/
def fetchRows (columns : List String) :
    Nat → List (Except SqliteError (List SqlValue)) → Except SqliteError (List Value)
  | 0, _ => .ok []
  | _, [] => .ok []
  | limit + 1, item :: rest => do
      let row ← item
      let object ← rowObject base64 columns row
      let objects ← fetchRows columns limit rest
      return object :: objects

/-- `statement.query(params)` and the loop over its rows. -/
def queryRaw (statement : Statement) (params : List SqlValue) (limit : Nat) : DbM (List Value) :=
  fun world =>
    let fetched := do
      let rows ← statement.query params (world []).tables
      fetchRows base64 statement.columnNames limit (selected (world []) fun _ => rows)
    ⟨[], some (fetched.mapError .sqlite)⟩

def rawQuery (prepare : Prepare) (sql : String) (params : List SqlValue) (limit : Nat) :
    DbM (List Value) :=
  withConnection do
    let statement ← ofExcept ((prepare sql).mapError .sqlite)
    queryRaw base64 statement params limit

end Rows

end Arisa.Database
