import Arisa.Database.ResultSets
import Arisa.Error
import Arisa.Proto
import Arisa.Std.Text

/-!
# The raw query call

`raw_query` of `service.rs` with the reading of its parameters. The text that
`serde_json` and `rusqlite` give their errors is a parameter.
-/

namespace Arisa.Service

open Arisa.Database Arisa.Database.DbM Arisa.Proto Arisa.Std

/-! ## Parameters -/

def jsonToSqlValue : Value → Except String SqlValue
  | .null => .ok .null
  | .bool value => .ok (.integer (if value then 1 else 0))
  | .number value =>
      match (Value.number value).asI64 with
      | some value => .ok (.integer value)
      | none =>
          match (Value.number value).asF64 with
          | some bits => .ok (.real bits)
          | none => .error "unsupported number"
  | .string value => .ok (.text value)
  | .array _ => .error "array/object cannot be used as a SQL parameter"
  | .object _ => .error "array/object cannot be used as a SQL parameter"

/-- The parameter is one value, not a list or an object. -/
def isScalar : Value → Bool
  | .array _ => false
  | .object _ => false
  | _ => true

/-- Every JSON number has a value as a double. -/
theorem exists_asF64 (number : Number) : ∃ bits, (Value.number number).asF64 = some bits := by
  cases number with
  | posInt value => exact ⟨_, rfl⟩
  | negInt value => exact ⟨_, rfl⟩
  | float bits => exact ⟨_, rfl⟩

/-- Every number is supported: what does not fit a 64 bit integer is a double. -/
theorem succeeds_jsonToSqlValue (value : Value) :
    Succeeds (jsonToSqlValue value) ↔ isScalar value := by
  cases value with
  | number number =>
      refine iff_of_true ?_ rfl
      obtain ⟨bits, double⟩ := exists_asF64 number
      rw [jsonToSqlValue, double]
      cases (Value.number number).asI64 with
      | some value => exact succeeds_ok _
      | none => exact succeeds_ok _
  | array values => exact iff_of_false (not_succeeds_error _) Bool.false_ne_true
  | object members => exact iff_of_false (not_succeeds_error _) Bool.false_ne_true
  | _ => exact iff_of_true (succeeds_ok _) rfl

/-- A number within 64 bits is bound as an integer. -/
theorem jsonToSqlValue_ofInt64 (value : Int64) :
    jsonToSqlValue (.number (.ofInt64 value)) = .ok (.integer value) := by
  rw [jsonToSqlValue, Value.asI64_ofInt64]

/-- A larger number denotes the double next to it. -/
theorem scaledReal_natToF64 {value : Nat} (large : 2 ^ 63 ≤ value) (small : value < 2 ^ 64) :
    SqlValue.scaledReal (natToF64 value) =
      some ((roundHalfEven value 11 * 2 ^ 1086 : Nat) : Int) := by
  obtain ⟨lower, upper⟩ := roundHalfEven_bounds large small
  have bits := toNat_natToF64 large small
  by_cases carried : roundHalfEven value 11 = 2 ^ 53
  · -- the carry went into the exponent
    rw [carried] at bits ⊢
    have parts := @SqlValue.scaledReal_of_parts _ 1087 0 (bits.trans (by omega)) (by omega)
      (by omega) (by omega)
    have carry (exponent : Nat) : 2 ^ 52 * 2 ^ (exponent + 1) = 2 ^ 53 * 2 ^ exponent := by
      rw [Nat.pow_succ]
      omega
    rw [parts, Nat.zero_add, carry 1086]
  · have parts := SqlValue.scaledReal_of_parts bits (by omega) (by omega) (by omega)
    rw [parts, Nat.sub_add_cancel lower]

/-- A number beyond the 64 bit integers is bound as the nearest double, without an error. -/
theorem jsonToSqlValue_large (value : UInt64) (large : 2 ^ 63 ≤ value.toNat) :
    ∃ bits rounded, jsonToSqlValue (.number (.posInt value)) = .ok (.real bits) ∧
      SqlValue.scaledReal bits = some ((rounded * 2 ^ 1075 : Nat) : Int) ∧
      value.toNat ≤ rounded + 2 ^ 10 ∧ rounded ≤ value.toNat + 2 ^ 10 := by
  have denotes := scaledReal_natToF64 large value.toNat_lt
  have error := roundHalfEven_error value.toNat 11
  refine ⟨natToF64 value.toNat, roundHalfEven value.toNat 11 * 2 ^ 11, ?_, ?_,
    by omega, by omega⟩
  · rw [jsonToSqlValue, Value.asI64, if_neg (by omega)]
    rfl
  · rw [denotes, Nat.mul_assoc, ← Nat.pow_add]

/-- `fromStr` is `serde_json::from_str::<Vec<Value>>`. -/
def parseQueryParams (fromStr : String → Except String (List Value)) (raw : String) :
    Except String (List SqlValue) :=
  if isBlank raw then .ok []
  else do
    let values ← fromStr raw
    values.mapM jsonToSqlValue

/-- Parameters are taken exactly if there are none, or an array of scalars. -/
theorem succeeds_parseQueryParams (fromStr : String → Except String (List Value)) (raw : String) :
    Succeeds (parseQueryParams fromStr raw) ↔
      isBlank raw ∨ ∃ values, fromStr raw = .ok values ∧ ∀ value ∈ values, isScalar value := by
  unfold parseQueryParams
  split
  · rename_i blank
    exact iff_of_true (succeeds_ok []) (.inl blank)
  · rename_i filled
    rw [or_iff_right filled]
    cases fromStr raw with
    | error error => simp [bind, Except.bind]
    | ok values =>
        have each : Succeeds (values.mapM jsonToSqlValue) ↔ ∀ value ∈ values, isScalar value := by
          rw [succeeds_mapM]
          exact forall₂_congr fun value _ => succeeds_jsonToSqlValue value
        simpa [bind, Except.bind] using each

/-! ## The call -/

/-- `error.to_string()`. -/
def display (sqlite : SqliteError → String) : DbError → String
  | .pool message => "failed to get database connection: " ++ message
  | .sqlite error => "database query failed: " ++ sqlite error
  | .memberNotFound userId => "member not found: " ++ toString userId.toInt
  | .messageNotFound messageId => "message not found: " ++ toString messageId.toInt
  | .messageMapping message => "message mapping failed: " ++ message

/-- What the call meets outside the repository. -/
structure Surroundings where
  serde : Serde
  fromStr : String → Except String (List Value)
  base64 : Base64
  prepare : Prepare
  sqlite : SqliteError → String
  /-- The task on the blocking pool was cancelled or panicked. -/
  joinError : Option String
  world : World

/-- `spawn_blocking` and its two errors. -/
def blocking {α : Type} (surroundings : Surroundings) (operation : DbM α) :
    Option (Except Status α) :=
  match surroundings.joinError with
  | some error => some (.error (.internal ("database task failed: " ++ error)))
  | none =>
      (operation surroundings.world).result.map
        (Except.mapError fun error => .internal (display surroundings.sqlite error))

def rawQuery (surroundings : Surroundings) (request : RawQueryRequest) :
    Option (Except Status RawQueryResponse) :=
  if isBlank request.sql then some (.error (.invalidArgument "sql cannot be empty"))
  else
    let limit := (request.limit.getD 100).toNat
    match parseQueryParams surroundings.fromStr request.paramsJson with
    | .error message => some (.error (.invalidArgument message))
    | .ok params =>
        (blocking surroundings do
          let rows ← Database.rawQuery surroundings.base64 surroundings.prepare request.sql params
            limit
          return rows.map surroundings.serde.toString).map (Except.map RawQueryResponse.mk)

section Call

variable {surroundings : Surroundings} {request : RawQueryRequest}

/-- The request is turned down before the database is asked. -/
def Rejected (surroundings : Surroundings) (request : RawQueryRequest) : Prop :=
  isBlank request.sql ∨ ¬ Succeeds (parseQueryParams surroundings.fromStr request.paramsJson)

/-- The caller's mistakes and the server's have different codes. -/
theorem rawQuery_error {status : Status}
    (failed : rawQuery surroundings request = some (.error status)) :
    Rejected surroundings request ∧ status.code = .invalidArgument ∨
      ¬ Rejected surroundings request ∧ status.code = .internal := by
  unfold rawQuery at failed
  split at failed
  · rename_i blank
    cases failed
    exact .inl ⟨.inl blank, rfl⟩
  · rename_i filled
    dsimp only at failed
    split at failed
    · rename_i message refused
      cases failed
      refine .inl ⟨.inr ?_, rfl⟩
      rw [refused]
      exact not_succeeds_error message
    · rename_i params accepted
      refine .inr ⟨?_, ?_⟩
      · rintro (blank | refused)
        · exact filled blank
        · exact refused ⟨params, accepted⟩
      · unfold blocking at failed
        split at failed
        · cases failed
          rfl
        · obtain ⟨outcome, ran, failed⟩ := Option.map_eq_some_iff.mp failed
          obtain ⟨result, -, rfl⟩ := Option.map_eq_some_iff.mp ran
          cases result with
          | ok rows => cases failed
          | error error =>
              cases failed
              rfl

/-- A query that returns is answered with what it returned. -/
theorem blocking_of_ok {α : Type} {operation : DbM α} {value : α}
    (joined : surroundings.joinError = none)
    (returned : (operation surroundings.world).result = some (.ok value)) :
    blocking surroundings operation = some (.ok value) := by
  rw [blocking, joined, returned]
  rfl

/-- The number of rows asked for. -/
def rowLimit (request : RawQueryRequest) : Nat :=
  (request.limit.getD 100).toNat

variable {params : List SqlValue} {results : ResultSet}

/-- The rows up to the limit, in order, each as the text of its object. -/
theorem rawQuery_response (filled : isBlank request.sql = false)
    (accepted : parseQueryParams surroundings.fromStr request.paramsJson = .ok params)
    (joined : surroundings.joinError = none)
    (yields : Yields surroundings.prepare request.sql params surroundings.world results) :
    rawQuery surroundings request =
      some (.ok ⟨(results.rows.take (rowLimit request)).map fun row =>
        surroundings.serde.toString (rowJson surroundings.base64 results.columnNames row)⟩) := by
  rw [rawQuery, if_neg (by simp [filled]), accepted]
  dsimp only
  rw [blocking_of_ok joined (bind_result_of_ok (yields.rawQuery_result (rowLimit request)))]
  simp only [rowLimit, Option.map_some, Except.map, List.map_map, Function.comp_def]

end Call
end Arisa.Service
