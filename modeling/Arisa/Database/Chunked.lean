import Arisa.Database.Members
import Arisa.Database.Results
import Arisa.Std.Batch

/-!
# Queries in chunks

What a query in chunks of ids returns in a world that stands still. With every
row decoded its values are the stored ones, whatever the order of the ids and
the chunks.
-/

namespace Arisa.Database

open Arisa.Std DbM

/-- A chunk is not empty. -/
theorem chunkSize_pos : 0 < chunkSize := by
  decide

/-- `IN` compares with each key. -/
theorem SqlValue.isIn_iff {value : SqlValue} {keys : List Int64} :
    value.isIn keys = true ↔ ∃ key ∈ keys, value.equals (.integer key) = true := by
  simp [SqlValue.isIn]

/-- A value is among the ids exactly when it is among those of one chunk. -/
theorem SqlValue.isIn_slices {value : SqlValue} {keys : List Int64} :
    value.isIn keys = true ↔ ∃ chunk ∈ slices chunkSize keys, value.isIn chunk = true := by
  have partition := flatten_slices chunkSize_pos keys
  constructor
  · intro found
    obtain ⟨key, member, same⟩ := SqlValue.isIn_iff.mp found
    rw [← partition, List.mem_flatten] at member
    obtain ⟨chunk, inside, member⟩ := member
    exact ⟨chunk, inside, SqlValue.isIn_iff.mpr ⟨key, member, same⟩⟩
  · rintro ⟨chunk, inside, found⟩
    obtain ⟨key, member, same⟩ := SqlValue.isIn_iff.mp found
    refine SqlValue.isIn_iff.mpr ⟨key, ?_, same⟩
    rw [← partition]
    exact List.mem_flatten.mpr ⟨chunk, inside, member⟩

variable {α β : Type}

/-- The values of the rows that decode. -/
def decoded (read : α → Except SqliteError β) (rows : List α) : List β :=
  rows.filterMap fun row => (read row).toOption

/-- If every row decodes, the values are the decoded ones. -/
theorem mapM_eq_decoded {read : α → Except SqliteError β} {rows : List α} {values : List β}
    (returned : rows.mapM read = .ok values) : values = decoded read rows := by
  have each := mapM_eq_ok_iff.mp returned
  clear returned
  induction each with
  | nil => rfl
  | cons first others ih =>
      rw [ih, decoded, decoded, List.filterMap_cons, first]
      rfl

/-- The same holds chunk by chunk. -/
theorem chunks_eq_decoded {chunks : List (List Int64)} {rows : List Int64 → List α}
    {read : α → Except SqliteError β} {values : List (List β)}
    (returned : (chunks.mapM fun chunk => ((rows chunk).mapM read).mapError DbError.sqlite) =
      .ok values) : values = chunks.map fun chunk => decoded read (rows chunk) := by
  have each := mapM_eq_ok_iff.mp returned
  clear returned
  induction each with
  | nil => rfl
  | cons first others ih => rw [List.map_cons, ← ih, mapM_eq_decoded (mapError_eq_ok.mp first)]

/-- The value stored under an id: the last one in the order of the scan. -/
def stored (read : α → Except SqliteError β) (idOf : β → Int64) (rows : List α) (id : Int64) :
    Option β :=
  latest idOf (decoded read rows) id

/-- A chunked query fails with an error of SQLite. -/
theorem chunked_error {chunks : List (List Int64)} {rows : List Int64 → List α}
    {read : α → Except SqliteError β} {error : DbError}
    (failed : (chunks.mapM fun chunk => ((rows chunk).mapM read).mapError DbError.sqlite) =
      .error error) : ∃ cause, error = .sqlite cause := by
  obtain ⟨before, chunk, after, -, -, here⟩ := mapM_eq_error_iff.mp failed
  cases read : (rows chunk).mapM read with
  | error cause =>
      rw [read] at here
      cases here
      exact ⟨cause, rfl⟩
  | ok values =>
      rw [read] at here
      cases here

section Queries

variable {world : World} {tables : Tables} {select : List Int64 → Tables → List α}
  {base : List α} {key : α → SqlValue} {read : α → Except SqliteError β} {idOf : β → Int64}
  {site : Nat → Site} {ids : List Int64}

/-- A chunked query selects the rows of `base` by their key. -/
def SelectsBy (select : List Int64 → Tables → List α) (tables : Tables) (base : List α)
    (key : α → SqlValue) : Prop :=
  ∀ ids row, row ∈ select ids tables ↔ row ∈ base ∧ (key row).isIn ids = true

/-- In a world that stands still a query in chunks decodes what each chunk selects. -/
theorem chunked_result (still : world.Still tables) (read : α → Except SqliteError β) :
    (traverse site (fun chunk => queryMap (select chunk) read) (slices chunkSize ids)
        world).result =
      some ((slices chunkSize ids).mapM fun chunk =>
        ((select chunk tables).mapM read).mapError .sqlite) :=
  traverse_result fun index _ _ => (still.below (site index)).queryMap_result _ read

/-- All chunks can be read exactly when every row with one of the ids can. -/
theorem chunked_succeeds (selects : SelectsBy select tables base key)
    (read : α → Except SqliteError β) (ids : List Int64) :
    Succeeds ((slices chunkSize ids).mapM fun chunk =>
        ((select chunk tables).mapM read).mapError DbError.sqlite) ↔
      ∀ row ∈ base, (key row).isIn ids = true → Succeeds (read row) := by
  rw [succeeds_mapM]
  simp only [succeeds_mapError, succeeds_mapM]
  constructor
  · intro each row member found
    obtain ⟨chunk, inside, found⟩ := SqlValue.isIn_slices.mp found
    exact each chunk inside row ((selects chunk row).mpr ⟨member, found⟩)
  · intro each chunk inside row member
    obtain ⟨member, found⟩ := (selects chunk row).mp member
    exact each row member (SqlValue.isIn_slices.mpr ⟨chunk, inside, found⟩)

/-- A chunked query is a filter of `base` by the key of its rows. -/
def FiltersBy (select : List Int64 → Tables → List α) (tables : Tables) (base : List α)
    (key : α → SqlValue) : Prop :=
  ∀ ids, select ids tables = base.filter fun row => (key row).isIn ids

/-- A filter by key selects by key. -/
theorem FiltersBy.selectsBy (filters : FiltersBy select tables base key) :
    SelectsBy select tables base key := by
  intro ids row
  rw [filters ids, List.mem_filter]

/-- What a query for some ids returns for one of them is what is stored under it. -/
theorem latest_selected (filters : FiltersBy select tables base key)
    (readsId : ∀ row value, read row = .ok value → (key row).toI64 0 = .ok (idOf value))
    (ids : List Int64) (id : Int64) :
    latest idOf (decoded read (select ids tables)) id =
      if id ∈ ids then stored read idOf base id else none := by
  rw [filters ids]
  refine latest_chosen idOf (fun row value found => ?_) base id
  rw [SqlValue.eq_integer_of_toI64 0 (readsId row value (toOption_eq_some.mp found)),
    SqlValue.isIn_iff]
  simp

/-- What the chunks return for an id is what is stored under it. -/
theorem latest_chunked (filters : FiltersBy select tables base key)
    (readsId : ∀ row value, read row = .ok value → (key row).toI64 0 = .ok (idOf value))
    {values : List (List β)}
    (returned : ((slices chunkSize ids).mapM fun chunk =>
      ((select chunk tables).mapM read).mapError DbError.sqlite) = .ok values) (id : Int64) :
    latest idOf values.flatten id = if id ∈ ids then stored read idOf base id else none := by
  have held : values = (slices chunkSize ids).map fun chunk => decoded read (select chunk tables) :=
    chunks_eq_decoded returned
  have each : ∀ chunk ∈ slices chunkSize ids, latest idOf (decoded read (select chunk tables)) id =
      if id ∈ chunk then latest idOf (decoded read base) id else none :=
    fun chunk _ => latest_selected filters readsId chunk id
  rw [held, latest_flatten idOf each, flatten_slices chunkSize_pos ids]
  rfl

/-- Every row with the id decodes. -/
def RowsDecode (key : α → SqlValue) (read : α → Except SqliteError β) (rows : List α)
    (id : Int64) : Prop :=
  ∀ row ∈ rows, (key row).equals (.integer id) = true → Succeeds (read row)

/-- The rows of all ids decode exactly when every row with one of the ids does. -/
theorem forall_rowsDecode :
    (∀ id ∈ ids, RowsDecode key read base id) ↔
      ∀ row ∈ base, (key row).isIn ids = true → Succeeds (read row) := by
  constructor
  · intro decodes row listed among
    obtain ⟨id, asked, same⟩ := SqlValue.isIn_iff.mp among
    exact decodes id asked row listed same
  · intro decodes id asked row listed same
    exact decodes row listed (SqlValue.isIn_iff.mpr ⟨id, asked, same⟩)

/-- With its rows decoded, something is stored under an id exactly when a row has it. -/
theorem stored_isSome {id : Int64}
    (readsId : ∀ row value, read row = .ok value → (key row).toI64 0 = .ok (idOf value))
    (decodes : RowsDecode key read base id) :
    (stored read idOf base id).isSome = true ↔
      ∃ row ∈ base, (key row).equals (.integer id) = true := by
  have keyed {row : α} {value : β} (here : read row = .ok value) :
      (key row).equals (.integer id) = true ↔ idOf value = id := by
    rw [SqlValue.eq_integer_of_toI64 0 (readsId row value here), SqlValue.integer_equals_integer]
  rw [stored, latest, List.getLast?_isSome]
  constructor
  · intro filled
    obtain ⟨value, member⟩ := List.exists_mem_of_ne_nil _ filled
    obtain ⟨inside, same⟩ := List.mem_filter.mp member
    obtain ⟨row, listed, found⟩ := List.mem_filterMap.mp inside
    exact ⟨row, listed, (keyed (toOption_eq_some.mp found)).mpr (by simpa using same)⟩
  · rintro ⟨row, listed, same⟩
    obtain ⟨value, here⟩ := decodes row listed same
    apply List.ne_nil_of_mem
    exact List.mem_filter.mpr ⟨List.mem_filterMap.mpr ⟨row, listed, toOption_eq_some.mpr here⟩,
      by simpa using (keyed here).mp same⟩

/-- What is stored under an id was read from a row with it. -/
theorem row_of_stored {id : Int64} {value : β}
    (readsId : ∀ row value, read row = .ok value → (key row).toI64 0 = .ok (idOf value))
    (found : stored read idOf base id = some value) :
    ∃ row ∈ base, (key row).equals (.integer id) = true ∧ read row = .ok value := by
  obtain ⟨inside, same⟩ := List.mem_filter.mp (List.mem_of_getLast? found)
  obtain ⟨row, listed, decodes⟩ := List.mem_filterMap.mp inside
  have here := toOption_eq_some.mp decodes
  refine ⟨row, listed, ?_, here⟩
  rw [SqlValue.eq_integer_of_toI64 0 (readsId row value here), SqlValue.integer_equals_integer]
  simpa using same

/-- A chunked query returns what is stored, or fails because a row does not decode. -/
theorem chunked_spec (site : Nat → Site) (still : world.Still tables)
    (filters : FiltersBy select tables base key)
    (readsId : ∀ row value, read row = .ok value → (key row).toI64 0 = .ok (idOf value))
    (ids : List Int64) :
    Reads (∀ id ∈ ids, RowsDecode key read base id)
      (Yields fun values => ∀ id, latest idOf values.flatten id =
        if id ∈ ids then stored read idOf base id else none)
      (traverse site (fun chunk => queryMap (select chunk) read) (slices chunkSize ids)
        world).result := by
  have result := @chunked_result _ _ world tables select site ids still read
  have succeeds := chunked_succeeds filters.selectsBy read ids
  rw [← forall_rowsDecode] at succeeds
  cases returned : (slices chunkSize ids).mapM fun chunk =>
      ((select chunk tables).mapM read).mapError DbError.sqlite with
  | ok values =>
      rw [returned] at result succeeds
      exact .inl ⟨succeeds.mp (succeeds_ok values), _, result, values, rfl,
        latest_chunked filters readsId returned⟩
  | error error =>
      rw [returned] at result succeeds
      obtain ⟨cause, rfl⟩ := chunked_error returned
      exact .inr ⟨fun decodes => not_succeeds_error _ (succeeds.mpr decodes), cause, result⟩

end Queries

end Arisa.Database
