import Arisa.Database.Raw
import Arisa.Database.Results
import Arisa.Std.Decimal
import Arisa.Std.OrderedMap
import Mathlib.Data.String.Basic

/-!
# What a raw query returns of a result set

A row becomes the ordered map of its columns, so that of several columns with one
name the last one stays. Reading an entry back needs the storage class of the
value: an integer and a text of its digits are written alike.
-/

namespace Arisa.Database

open Arisa.Std DbM

/-! ## Rows as ordered maps -/

section Encoded

variable (base64 : Base64)

/-- The columns with the values of a row, as JSON. -/
def rowPairs (columns : List String) (row : List SqlValue) : List (String × Value) :=
  columns.zip (row.map (sqliteValueToJson base64))

def rowJson (columns : List String) (row : List SqlValue) : Value :=
  .object (OrderedMap.ofPairs (rowPairs base64 columns row)).entries

end Encoded

/-- The map of `serde_json` is the ordered map keyed by the names. -/
theorem insertMember_eq (name : String) (value : Value) (members : List (String × Value)) :
    insertMember name value members = insertEntry name value members := by
  induction members with
  | nil => rfl
  | cons member rest ih =>
      rw [insertMember, ih]
      rfl

variable {base64 : Base64}

/-- The loop over the columns inserts what is left of the row. -/
theorem rowMembers_eq {row : List SqlValue} {index : Nat} {names : List String}
    (within : index + names.length ≤ row.length) (map : OrderedMap String Value) :
    rowMembers base64 row index names map.entries =
      .ok (map.insertAll (rowPairs base64 names (row.drop index))).entries := by
  induction names generalizing index map with
  | nil => rfl
  | cons name names ih =>
      rw [List.length_cons] at within
      have inside : index < row.length := by omega
      rw [rowMembers, List.getElem?_eq_getElem inside, rowPairs, List.drop_eq_getElem_cons inside,
        List.map_cons, List.zip_cons_cons]
      simp only [insertMember_eq]
      exact ih (by omega) (map.insert name (sqliteValueToJson base64 row[index]))

/-- A row with a value for each column is an object of all of them, keyed by the names. -/
theorem rowObject_eq {columns : List String} {row : List SqlValue}
    (shaped : row.length = columns.length) :
    rowObject base64 columns row = .ok (rowJson base64 columns row) := by
  have built : rowMembers base64 row 0 columns [] =
      .ok (OrderedMap.ofPairs (rowPairs base64 columns row)).entries :=
    rowMembers_eq (by omega) OrderedMap.empty
  rw [rowObject, built]
  rfl

/-- Rows are fetched one by one up to the limit, and the first failure ends it. -/
theorem fetchRows_eq (columns : List String) (limit : Nat)
    (items : List (Except SqliteError (List SqlValue))) :
    fetchRows base64 columns limit items =
      (items.take limit).mapM fun item => item.bind (rowObject base64 columns) := by
  induction limit generalizing items with
  | zero => rfl
  | succ limit ih =>
      cases items with
      | nil => rfl
      | cons item rest =>
          rw [fetchRows, ih, List.take_succ_cons, List.mapM_cons]
          cases item with
          | error error => rfl
          | ok row => rfl

/-! ## Result sets -/

/-- The result of a query: a row has a value for every column. -/
structure ResultSet where
  columnNames : List String
  rows : List (List SqlValue)
  shaped : ∀ row ∈ rows, row.length = columnNames.length

/-- The query has this result set, and neither the pool nor SQLite fails. -/
structure Yields (prepare : Prepare) (sql : String) (params : List SqlValue) (world : World)
    (results : ResultSet) : Prop where
  connects : (world [.connection]).poolError = none
  unbroken : (world []).fault = none
  prepares : ∃ statement, prepare sql = .ok statement ∧
    statement.columnNames = results.columnNames ∧
    statement.query params (world []).tables = .ok results.rows

section Results

variable {prepare : Prepare} {sql : String} {params : List SqlValue} {world : World}
  {results : ResultSet}

/-- The rows up to the limit are returned in order, each as its object. -/
theorem Yields.rawQuery_result (yields : Yields prepare sql params world results) (limit : Nat) :
    (rawQuery base64 prepare sql params limit world).result =
      some (.ok ((results.rows.take limit).map (rowJson base64 results.columnNames))) := by
  obtain ⟨connects, unbroken, statement, prepared, columns, rows⟩ := yields
  have fetched : fetchRows base64 results.columnNames limit
      (selected (world []) fun _ => results.rows) =
        .ok ((results.rows.take limit).map (rowJson base64 results.columnNames)) := by
    rw [fetchRows_eq, selected, unbroken, ← List.map_take, List.mapM_map]
    apply mapM_eq_ok
    intro row member
    exact rowObject_eq (results.shaped row (List.mem_of_mem_take member))
  have ran : (queryRaw base64 statement params limit world).result =
      some (.ok ((results.rows.take limit).map (rowJson base64 results.columnNames))) := by
    rw [queryRaw, rows, columns]
    change some (Except.mapError _ (fetchRows _ _ _ _)) = _
    rw [fetched]
    rfl
  rw [rawQuery, withConnection, connects]
  refine (bind_result_of_ok ?_).trans ran
  rw [prepared]
  rfl

end Results

/-! ## What an entry says of its value -/

/-- SQLite's storage classes. -/
inductive StorageClass where
  | null
  | integer
  | real
  | text
  | blob
deriving DecidableEq

def SqlValue.storageClass : SqlValue → StorageClass
  | .null => .null
  | .integer _ => .integer
  | .real _ => .real
  | .text _ => .text
  | .invalidText _ => .text
  | .blob _ => .blob

/-- A JSON value read as one of a storage class. -/
def readAs (base64 : Base64) : StorageClass → Value → Option SqlValue
  | .null, .null => some .null
  | .integer, .string text => (parseI64 text.toList).map .integer
  | .real, .number (.float bits) => some (.real bits)
  | .text, .string text => some (.text text)
  | .blob, value =>
      ((value.get "blob_base64").bind Value.asStr).bind fun text =>
        (base64.decode text).map .blob
  | _, _ => none

/-- JSON has no number for an infinity and no string for bytes that are not UTF-8. -/
def SqlValue.expressible : SqlValue → Bool
  | .real bits => bits.toNat / 2 ^ 52 % 2 ^ 11 ≠ 2 ^ 11 - 1
  | .invalidText _ => false
  | _ => true

/-- A value is read back from its JSON exactly if JSON can express it. -/
theorem readAs_sqliteValueToJson (value : SqlValue) :
    readAs base64 value.storageClass (sqliteValueToJson base64 value) = some value ↔
      value.expressible := by
  cases value with
  | null => exact iff_of_true rfl rfl
  | integer value =>
      refine iff_of_true ?_ rfl
      change (parseI64 (toString value.toInt).toList).map SqlValue.integer = _
      rw [(writesI64_toString value).parse]
      rfl
  | real bits =>
      change readAs base64 .real (realToJson bits) = _ ↔ decide _ = true
      rw [realToJson, decide_eq_true_eq]
      split
      · rename_i infinite
        refine iff_of_false ?_ (not_not_intro infinite)
        intro same
        cases same
      · rename_i finite
        exact iff_of_true rfl finite
  | text value => exact iff_of_true rfl rfl
  | invalidText bytes =>
      refine iff_of_false ?_ Bool.false_ne_true
      intro same
      cases same
  | blob bytes =>
      refine iff_of_true ?_ rfl
      change (base64.decode (base64.encode bytes)).map SqlValue.blob = _
      rw [base64.decode_encode]
      rfl

/-! ## Completeness -/

/-- The object has an entry for every column, under its name and presenting its value, and
no other entry. -/
def HasEveryColumn (presents : SqlValue → Value → Prop) (columns : List String)
    (row : List SqlValue) (object : Value) : Prop :=
  ∃ members values, object = .object members ∧ List.Forall₂ presents row values ∧
    members.Perm (columns.zip values)

/-- The rows up to the limit were returned in order, each with every column. -/
def ReturnsEvery (presents : SqlValue → Value → Prop) (results : ResultSet) (limit : Nat)
    (returned : Option (Except DbError (List Value))) : Prop :=
  ∃ objects, returned = some (.ok objects) ∧
    List.Forall₂ (HasEveryColumn presents results.columnNames) (results.rows.take limit) objects

section Complete

variable {presents : SqlValue → Value → Prop}

/-- The keys of an object are the names of the columns. -/
theorem keys_rowPairs {columns : List String} {row : List SqlValue}
    (shaped : row.length = columns.length) : (rowPairs base64 columns row).map Prod.fst = columns :=
  List.map_fst_zip (by simp [shaped])

/-- A row keeps its columns exactly when their names differ. -/
theorem hasEveryColumn_rowJson_iff {columns : List String} {row : List SqlValue}
    (shaped : row.length = columns.length) :
    HasEveryColumn presents columns row (rowJson base64 columns row) ↔
      columns.Nodup ∧ ∀ value ∈ row, presents value (sqliteValueToJson base64 value) := by
  have written : List.Forall₂ presents row (row.map (sqliteValueToJson base64)) ↔
      ∀ value ∈ row, presents value (sqliteValueToJson base64 value) := by
    rw [List.forall₂_map_right_iff, List.forall₂_same]
  have kept := @OrderedMap.perm_ofPairs_iff _ _ _ (rowPairs base64 columns row)
  rw [keys_rowPairs shaped] at kept
  rw [← written]
  constructor
  · rintro ⟨members, values, same, each, permuted⟩
    cases same
    have names : (columns.zip values).map Prod.fst = columns :=
      List.map_fst_zip (by rw [← each.length_eq, shaped])
    have distinct : columns.Nodup := by
      have keys := (permuted.map Prod.fst).nodup_iff.mp (OrderedMap.nodup_keys _)
      rwa [names] at keys
    have pairs : columns.zip values = rowPairs base64 columns row := by
      apply eq_of_perm_of_keys (permuted.symm.trans (kept.mpr distinct))
      · rw [names, keys_rowPairs shaped]
      · rwa [names]
    have same : values = row.map (sqliteValueToJson base64) := by
      have read := congrArg (List.map Prod.snd) pairs
      rwa [rowPairs, List.map_snd_zip (by rw [← each.length_eq, shaped]),
        List.map_snd_zip (by simp [shaped])] at read
    exact ⟨distinct, same ▸ each⟩
  · rintro ⟨distinct, each⟩
    exact ⟨_, _, rfl, each, kept.mpr distinct⟩

variable {prepare : Prepare} {sql : String} {params : List SqlValue} {world : World}
  {results : ResultSet}

/-- What a raw query returns is complete where the names of the columns differ and every
value is presented, or where no row is returned. -/
theorem Yields.returnsEvery_iff (yields : Yields prepare sql params world results) (limit : Nat) :
    ReturnsEvery presents results limit (rawQuery base64 prepare sql params limit world).result ↔
      (results.columnNames.Nodup ∧ ∀ row ∈ results.rows.take limit, ∀ value ∈ row,
        presents value (sqliteValueToJson base64 value)) ∨ limit = 0 ∨ results.rows = [] := by
  have rows : ReturnsEvery presents results limit
        (rawQuery base64 prepare sql params limit world).result ↔
      ∀ row ∈ results.rows.take limit,
        results.columnNames.Nodup ∧
          ∀ value ∈ row, presents value (sqliteValueToJson base64 value) := by
    rw [ReturnsEvery, yields.rawQuery_result limit]
    simp only [Option.some.injEq, Except.ok.injEq, exists_eq_left', List.forall₂_map_right_iff,
      List.forall₂_same]
    apply forall₂_congr
    intro row member
    exact hasEveryColumn_rowJson_iff (results.shaped row (List.mem_of_mem_take member))
  rw [rows, ← List.take_eq_nil_iff]
  rcases results.rows.take limit with _ | ⟨row, rest⟩
  · simp
  · rw [or_iff_left (List.cons_ne_nil row rest)]
    constructor
    · intro each
      exact ⟨(each row List.mem_cons_self).1, fun row member => (each row member).2⟩
    · rintro ⟨distinct, each⟩ row member
      exact ⟨distinct, each row member⟩

/-- Whatever the names are, each name has one entry, with the value of its last column. -/
theorem Yields.rawQuery_keeps_last (yields : Yields prepare sql params world results)
    (limit : Nat) :
    ∃ objects, (rawQuery base64 prepare sql params limit world).result = some (.ok objects) ∧
      objects.length = min limit results.rows.length ∧
      List.Forall₂ (fun row object => ∃ members, object = .object members ∧
          members.length = results.columnNames.dedup.length ∧
          ∀ entry, entry ∈ members ↔ LastOf entry (rowPairs base64 results.columnNames row))
        (results.rows.take limit) objects := by
  refine ⟨_, yields.rawQuery_result limit, by simp, ?_⟩
  rw [List.forall₂_map_right_iff, List.forall₂_same]
  intro row member
  refine ⟨_, rfl, ?_, fun entry => OrderedMap.mem_ofPairs⟩
  rw [OrderedMap.length_ofPairs,
    keys_rowPairs (results.shaped row (List.mem_of_mem_take member))]

/-! ## Values as they are written, and values that can be read back -/

/-- The value as the server writes it. -/
def Written (base64 : Base64) (value : SqlValue) (json : Value) : Prop :=
  json = sqliteValueToJson base64 value

/-- The value is got back by reading the entry as one of its storage class. -/
def Readable (base64 : Base64) (value : SqlValue) (json : Value) : Prop :=
  readAs base64 value.storageClass json = some value

/-- Every column of every row is in the answer exactly if no two columns share a name, or no row is
returned; and readable there exactly if, besides, each value is expressible. -/
theorem rawQuery_complete_iff (yields : Yields prepare sql params world results) (limit : Nat) :
    (ReturnsEvery (Written base64) results limit
          (rawQuery base64 prepare sql params limit world).result ↔
        results.columnNames.Nodup ∨ limit = 0 ∨ results.rows = []) ∧
      (ReturnsEvery (Readable base64) results limit
          (rawQuery base64 prepare sql params limit world).result ↔
        (results.columnNames.Nodup ∧
          ∀ row ∈ results.rows.take limit, ∀ value ∈ row, value.expressible) ∨
        limit = 0 ∨ results.rows = []) := by
  constructor
  · have written : ∀ row ∈ results.rows.take limit, ∀ value ∈ row,
        Written base64 value (sqliteValueToJson base64 value) := fun _ _ _ _ => rfl
    rw [yields.returnsEvery_iff limit, and_iff_left written]
  · rw [yields.returnsEvery_iff limit]
    simp only [Readable, readAs_sqliteValueToJson]

end Complete

/-! ### A join -/

/-- One message in one room. -/
def joinedTables : Tables where
  chatLogs := [⟨1, .integer 7, .integer 1, .integer 18, .integer 100, .null, .null, .null, .null,
    .integer 1⟩]
  chatRooms := [⟨.integer 18, .text "MultiChat", .null, .null, .null, .null, .null⟩]
  openLinks := []
  openProfiles := []
  openChatMembers := []
  users := []
  friends := []
  primaryKey := List.nodup_singleton _

/-- `SELECT chat_logs.id, chat_rooms.id FROM chat_logs JOIN chat_rooms ON chat_rooms.id =
chat_logs.chat_id`, with the names its columns are given. -/
def messageRooms (columnNames : List String) : Statement where
  columnNames
  query _ tables :=
    .ok (tables.chatLogs.flatMap fun log =>
      (tables.chatRooms.filter fun room => room.id.equals log.chatId).map fun room =>
        [log.id, room.id])

def messageRoomsResults (message room : String) : ResultSet where
  columnNames := [message, room]
  rows := [[.integer 7, .integer 18]]
  shaped := by simp

/-- The join of the example returns its one row. -/
theorem messageRooms_yields (sql message room : String) :
    Yields (fun _ => .ok (messageRooms [message, room])) sql [] (World.steady joinedTables)
      (messageRoomsResults message room) where
  connects := rfl
  unbroken := rfl
  prepares := ⟨messageRooms [message, room], rfl, rfl, rfl⟩

/-- Bytes as characters: no blob is in the rows below. -/
def codePoints : Base64 where
  encode bytes := String.ofList (bytes.map fun byte => Char.ofNat byte.toNat)
  decode text := some (text.toList.map fun char => UInt8.ofNat char.toNat)
  decode_encode bytes := by
    have kept (byte : UInt8) : UInt8.ofNat (Char.ofNat byte.toNat).toNat = byte := by
      have small := byte.toNat_lt
      rw [Char.ofNat, dif_pos (.inl (by omega))]
      exact UInt8.ofNat_toNat
    simp [Function.comp_def, kept]

/-- With an alias for the second column both ids are in the answer, and readable. -/
theorem rawQuery_complete_of_names :
    ReturnsEvery (Written codePoints) (messageRoomsResults "id" "room_id") 100
        (rawQuery codePoints (fun _ => .ok (messageRooms ["id", "room_id"]))
          "SELECT m.id, r.id AS room_id FROM chat_logs m JOIN chat_rooms r ON r.id = m.chat_id"
          [] 100 (World.steady joinedTables)).result ∧
      ReturnsEvery (Readable codePoints) (messageRoomsResults "id" "room_id") 100
        (rawQuery codePoints (fun _ => .ok (messageRooms ["id", "room_id"]))
          "SELECT m.id, r.id AS room_id FROM chat_logs m JOIN chat_rooms r ON r.id = m.chat_id"
          [] 100 (World.steady joinedTables)).result := by
  obtain ⟨written, readable⟩ :=
    rawQuery_complete_iff (messageRooms_yields _ "id" "room_id") 100
  exact ⟨written.mpr (.inl (by decide)), readable.mpr (.inl ⟨by decide, by decide⟩)⟩

/-- Of two columns called `id` only the second one is returned. -/
theorem rawQuery_drops_column :
    (rawQuery codePoints (fun _ => .ok (messageRooms ["id", "id"]))
        "SELECT m.id, r.id FROM chat_logs m JOIN chat_rooms r ON r.id = m.chat_id"
        [] 100 (World.steady joinedTables)).result =
      some (.ok [.object [("id", .string "18")]]) ∧
    ¬ ReturnsEvery (Written codePoints) (messageRoomsResults "id" "id") 100
      (rawQuery codePoints (fun _ => .ok (messageRooms ["id", "id"]))
        "SELECT m.id, r.id FROM chat_logs m JOIN chat_rooms r ON r.id = m.chat_id"
        [] 100 (World.steady joinedTables)).result := by
  refine ⟨rfl, ?_⟩
  rintro ⟨objects, returned, each⟩
  cases returned
  obtain ⟨first, -⟩ := List.forall₂_cons.mp each
  obtain ⟨members, values, same, written, permuted⟩ := first
  cases same
  have entries := permuted.length_eq
  rw [List.length_zip, ← written.length_eq] at entries
  cases entries

end Arisa.Database
