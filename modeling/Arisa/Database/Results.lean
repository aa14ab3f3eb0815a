import Arisa.Database.Operation
import Arisa.Std.Except

/-!
# Results of operations

How results compose, which operations always return, and what queries return in a
world that stands still.
-/

namespace Arisa.Database.DbM

open Arisa.Std

variable {α β : Type} {world : World}

/-- A value is returned whatever the queries meet. -/
@[simp] theorem pure_result (value : α) :
    ((Pure.pure value : DbM α) world).result = some (.ok value) := rfl

/-- An error that is raised on purpose needs no query. -/
@[simp] theorem throw_result (error : DbError) :
    ((throw error : DbM α) world).result = some (.error error) := rfl

/-- A result that is at hand is passed on. -/
@[simp] theorem ofExcept_result (value : Except DbError α) :
    (ofExcept value world).result = some value := by
  cases value <;> rfl

/-- An attempt ends when its operation does, with what that returned as a value. -/
@[simp] theorem attempt_result (operation : DbM α) :
    (attempt operation world).result = (operation world).result.map .ok := rfl

/-- The queries of an operation at a site are those below the site. -/
@[simp] theorem atSite_result (site : Site) (operation : DbM α) :
    (atSite site operation world).result = (operation (world.below site)).result := rfl

/-- A set is iterated in the order that the world gives it. -/
@[simp] theorem hashSet_result (ids : List Int64) :
    (hashSet ids world).result = some (.ok ((world []).order ids)) := rfl

/-- The distinct ids of a list are those in it. -/
theorem mem_order {ids : List Int64} {id : Int64} : id ∈ (world []).order ids ↔ id ∈ ids := by
  rw [((world []).order_perm ids).mem_iff, List.mem_dedup]

/-- `?` continues with the value of an operation that returned one. -/
theorem bind_result_of_ok {first : DbM α} {second : α → DbM β} {value : α}
    (returned : (first world).result = some (.ok value)) :
    ((first >>= second) world).result = (second value world).result := by
  change (DbM.bind first second world).result = _
  rw [DbM.bind, returned]

/-- After an error nothing more is done. -/
theorem bind_result_of_error {first : DbM α} {second : α → DbM β} {error : DbError}
    (failed : (first world).result = some (.error error)) :
    ((first >>= second) world).result = some (.error error) := by
  change (DbM.bind first second world).result = _
  rw [DbM.bind, failed]

/-- What never ends is followed by nothing. -/
theorem bind_result_of_none {first : DbM α} {second : α → DbM β}
    (bounded : (first world).result = none) : ((first >>= second) world).result = none := by
  change (DbM.bind first second world).result = _
  rw [DbM.bind, bounded]

/-- A sequence returns a value exactly when both parts do. -/
theorem bind_result_eq_ok {first : DbM α} {second : α → DbM β} {value : β} :
    ((first >>= second) world).result = some (.ok value) ↔
      ∃ middle, (first world).result = some (.ok middle) ∧
        (second middle world).result = some (.ok value) := by
  cases returned : (first world).result with
  | none => simp [bind_result_of_none returned]
  | some result =>
      cases result with
      | error error => simp [bind_result_of_error returned]
      | ok middle => simp [bind_result_of_ok returned]

/-- A sequence ends when its first part does, and the rest after a value. -/
theorem bind_result_isSome {first : DbM α} {second : α → DbM β} :
    ((first >>= second) world).result.isSome ↔
      (first world).result.isSome ∧ ∀ value, (first world).result = some (.ok value) →
        (second value world).result.isSome := by
  cases returned : (first world).result with
  | none => simp [bind_result_of_none returned]
  | some result =>
      cases result with
      | error error => simp [bind_result_of_error returned]
      | ok middle => simp [bind_result_of_ok returned]

/-! ## Results in two worlds -/

/-- Two worlds in which both parts return the same give the same. -/
theorem bind_result_congr {other : World} {first : DbM α} {second : α → DbM β}
    (head : (first world).result = (first other).result)
    (tail : ∀ value, (second value world).result = (second value other).result) :
    ((first >>= second) world).result = ((first >>= second) other).result := by
  rcases returned : (first other).result with _ | error | value
  · rw [bind_result_of_none returned, bind_result_of_none (head.trans returned)]
  · rw [bind_result_of_error returned, bind_result_of_error (head.trans returned)]
  · rw [bind_result_of_ok returned, bind_result_of_ok (head.trans returned), tail value]

/-- Two worlds in which each call returns the same give the same. -/
theorem traverse_result_congr {other : World} {site : Nat → Site} {call : α → DbM β}
    (each : ∀ index item, (call item (world.below (site index))).result =
      (call item (other.below (site index))).result) (items : List α) :
    (traverse site call items world).result = (traverse site call items other).result := by
  have loop : ∀ index, (traverseFrom site call index items world).result =
      (traverseFrom site call index items other).result := by
    induction items with
    | nil => exact fun _ => rfl
    | cons item rest ih =>
        intro index
        refine bind_result_congr (each index item) fun value => ?_
        exact bind_result_congr (ih (index + 1)) fun _ => rfl
  exact loop 0

/-! ## Operations that always return -/

/-- The operation returns a value or an error in every world. -/
def Returns (operation : DbM α) : Prop :=
  ∀ world, (operation world).result.isSome

/-- A value is returned in any world. -/
theorem returns_pure (value : α) : Returns (Pure.pure value : DbM α) :=
  fun _ => rfl

/-- An error is a result too. -/
theorem returns_throw (error : DbError) : Returns (throw error : DbM α) :=
  fun _ => rfl

/-- A result at hand is one in any world. -/
theorem returns_ofExcept (value : Except DbError α) : Returns (ofExcept value) := by
  intro world
  simp

/-- Iterating a set makes no query. -/
theorem returns_hashSet (ids : List Int64) : Returns (hashSet ids) :=
  fun _ => rfl

/-- A query returns its rows or the error it met. -/
theorem returns_queryMap (select : Tables → List α) (read : α → Except SqliteError β) :
    Returns (queryMap select read) :=
  fun _ => rfl

/-- A query for one row returns it, or an error when there is none. -/
theorem returns_queryRow (select : Tables → List α) (read : α → Except SqliteError β) :
    Returns (queryRow select read) := by
  intro world
  unfold queryRow
  split <;> rfl

/-- A sequence returns when each of its parts does. -/
theorem Returns.bind {first : DbM α} {second : α → DbM β} (head : Returns first)
    (tail : ∀ value, Returns (second value)) : Returns (first >>= second) :=
  fun world => bind_result_isSome.mpr ⟨head world, fun value _ => tail value world⟩

/-- Where an operation stands makes no difference to whether it returns. -/
theorem Returns.atSite {operation : DbM α} (returns : Returns operation) (site : Site) :
    Returns (atSite site operation) :=
  fun world => returns (world.below site)

/-- An attempt returns when its operation does, also after an error. -/
theorem Returns.attempt {operation : DbM α} (returns : Returns operation) :
    Returns (attempt operation) := by
  intro world
  rw [attempt_result, Option.isSome_map]
  exact returns world

/-- A pool that is exhausted is an error, and so a result. -/
theorem Returns.withConnection {operation : DbM α} (returns : Returns operation) :
    Returns (withConnection operation) := by
  intro world
  unfold DbM.withConnection
  split
  · rfl
  · exact returns world

/-- By induction on the items that are left. -/
theorem Returns.traverseFrom {site : Nat → Site} {call : α → DbM β}
    (returns : ∀ item, Returns (call item)) (index : Nat) (items : List α) :
    Returns (traverseFrom site call index items) := by
  induction items generalizing index with
  | nil => exact returns_pure []
  | cons item rest ih =>
      exact ((returns item).atSite _).bind fun _ => (ih (index + 1)).bind fun _ =>
        returns_pure _

/-- A loop returns when every call does. -/
theorem Returns.traverse {site : Nat → Site} {call : α → DbM β}
    (returns : ∀ item, Returns (call item)) (items : List α) :
    Returns (traverse site call items) :=
  Returns.traverseFrom returns 0 items

/-! ## Errors an operation can return -/

/-- Every error the operation returns, in any world, is an allowed one. -/
def Raises (allowed : DbError → Prop) (operation : DbM α) : Prop :=
  ∀ world error, (operation world).result = some (.error error) → allowed error

section Raises

variable {allowed : DbError → Prop}

/-- A value is no error. -/
theorem raises_pure (value : α) : Raises allowed (Pure.pure value : DbM α) :=
  fun _ _ same => nomatch same

/-- The error that is raised is the one that has to be allowed. -/
theorem raises_throw {error : DbError} (holds : allowed error) :
    Raises allowed (throw error : DbM α) := by
  intro world other same
  cases same
  exact holds

/-- What never ends raises nothing. -/
theorem raises_outOfFuel : Raises allowed (outOfFuel : DbM α) :=
  fun _ _ same => nomatch same

/-- An attempt hands its error on as a value. -/
theorem raises_attempt (operation : DbM α) : Raises allowed (attempt operation) := by
  intro world error same
  rw [attempt_result] at same
  cases result : (operation world).result with
  | none => simp [result] at same
  | some outcome => simp [result] at same

/-- Iterating a set does not fail. -/
theorem raises_hashSet (ids : List Int64) : Raises allowed (hashSet ids) :=
  fun _ _ same => nomatch same

/-- The error of a result at hand is the only one. -/
theorem raises_ofExcept {value : Except DbError α}
    (holds : ∀ error, value = .error error → allowed error) : Raises allowed (ofExcept value) := by
  intro world error same
  rw [ofExcept_result] at same
  exact holds error (Option.some.inj same)

/-- A query for one row raises errors of SQLite alone. -/
theorem raises_queryRow (holds : ∀ error, allowed (.sqlite error)) (select : Tables → List α)
    (read : α → Except SqliteError β) : Raises allowed (queryRow select read) := by
  intro world error same
  unfold queryRow at same
  split at same
  · cases same
    exact holds _
  · rename_i row rest _
    cases read : row.bind read with
    | ok value => simp [read, Except.mapError] at same
    | error cause =>
        simp only [read, Except.mapError, Option.some.injEq, Except.error.injEq] at same
        exact same ▸ holds cause

/-- So does a query for many rows. -/
theorem raises_queryMap (holds : ∀ error, allowed (.sqlite error)) (select : Tables → List α)
    (read : α → Except SqliteError β) : Raises allowed (queryMap select read) := by
  intro world error same
  unfold queryMap at same
  cases rows : (selected (world []) select).mapM fun row : Except SqliteError α =>
      row.bind read with
  | ok values => simp [rows, Except.mapError] at same
  | error cause =>
      simp only [rows, Except.mapError, Option.some.injEq, Except.error.injEq] at same
      exact same ▸ holds cause

/-- The error of a sequence is that of one of its parts. -/
theorem Raises.bind {first : DbM α} {second : α → DbM β} (head : Raises allowed first)
    (tail : ∀ value, Raises allowed (second value)) : Raises allowed (first >>= second) := by
  intro world error same
  cases result : (first world).result with
  | none =>
      rw [bind_result_of_none result] at same
      cases same
  | some outcome =>
      cases outcome with
      | error cause =>
          rw [bind_result_of_error result] at same
          cases same
          exact head world _ result
      | ok value =>
          rw [bind_result_of_ok result] at same
          exact tail value world error same

/-- Where an operation stands adds no error. -/
theorem Raises.atSite {operation : DbM α} (raises : Raises allowed operation) (site : Site) :
    Raises allowed (atSite site operation) :=
  fun world error same => raises (world.below site) error same

/-- Taking a connection adds the error of the pool. -/
theorem Raises.withConnection {operation : DbM α} (holds : ∀ message, allowed (.pool message))
    (raises : Raises allowed operation) : Raises allowed (withConnection operation) := by
  intro world error same
  unfold DbM.withConnection at same
  split at same
  · cases same
    exact holds _
  · exact raises world error same

/-- By induction on the items that are left. -/
theorem Raises.traverseFrom {site : Nat → Site} {call : α → DbM β}
    (raises : ∀ item, Raises allowed (call item)) (index : Nat) (items : List α) :
    Raises allowed (traverseFrom site call index items) := by
  induction items generalizing index with
  | nil => exact raises_pure []
  | cons item rest ih =>
      exact ((raises item).atSite _).bind fun _ => (ih (index + 1)).bind fun _ => raises_pure _

/-- The error of a loop is that of one of its calls. -/
theorem Raises.traverse {site : Nat → Site} {call : α → DbM β}
    (raises : ∀ item, Raises allowed (call item)) (items : List α) :
    Raises allowed (traverse site call items) :=
  Raises.traverseFrom raises 0 items

end Raises

/-! ## Operations that end more often -/

/-- Wherever the first operation has a result, the second has the same one. -/
def Extends (less more : DbM α) : Prop :=
  ∀ world result, (less world).result = some result → (more world).result = some result

/-- Every operation extends itself. -/
theorem Extends.refl (operation : DbM α) : Extends operation operation :=
  fun _ _ same => same

/-- Both parts of a sequence can be extended. -/
theorem Extends.bind {less more : DbM α} {lessRest moreRest : α → DbM β}
    (head : Extends less more) (tail : ∀ value, Extends (lessRest value) (moreRest value)) :
    Extends (less >>= lessRest) (more >>= moreRest) := by
  intro world result same
  cases first : (less world).result with
  | none =>
      rw [bind_result_of_none first] at same
      cases same
  | some outcome =>
      have also := head world outcome first
      cases outcome with
      | error error =>
          rw [bind_result_of_error first] at same
          rw [bind_result_of_error also, same]
      | ok value =>
          rw [bind_result_of_ok first] at same
          rw [bind_result_of_ok also]
          exact tail value world result same

/-- What is attempted can be extended. -/
theorem Extends.attempt {less more : DbM α} (extended : Extends less more) :
    Extends (attempt less) (attempt more) := by
  intro world result same
  rw [attempt_result, Option.map_eq_some_iff] at same
  obtain ⟨outcome, ended, rfl⟩ := same
  rw [attempt_result, extended world outcome ended]
  rfl

/-- What stands at a site can be extended there. -/
theorem Extends.atSite {less more : DbM α} (extended : Extends less more) (site : Site) :
    Extends (atSite site less) (atSite site more) :=
  fun world result same => extended (world.below site) result same

/-- The call of a loop can be extended. -/
theorem Extends.traverse {site : Nat → Site} {less more : α → DbM β}
    (extended : ∀ item, Extends (less item) (more item)) (items : List α) :
    Extends (traverse site less items) (traverse site more items) := by
  have loop : ∀ index,
      Extends (traverseFrom site less index items) (traverseFrom site more index items) := by
    induction items with
    | nil => exact fun _ => .refl _
    | cons item rest ih =>
        intro index
        exact ((extended item).atSite _).bind fun _ => (ih (index + 1)).bind fun _ => .refl _
  exact loop 0

/-! ## Loops -/

/-- A loop whose calls have known results is a map over them. -/
theorem traverseFrom_result {site : Nat → Site} {call : α → DbM β}
    {value : α → Except DbError β} {index : Nat} {items : List α}
    (each : ∀ offset item, items[offset]? = some item →
      (call item (world.below (site (index + offset)))).result = some (value item)) :
    (traverseFrom site call index items world).result = some (items.mapM value) := by
  induction items generalizing index with
  | nil => rfl
  | cons item rest ih =>
      have here : (DbM.atSite (site index) (call item) world).result = some (value item) :=
        each 0 item rfl
      have others : (DbM.traverseFrom site call (index + 1) rest world).result =
          some (rest.mapM value) := by
        apply ih
        intro offset other found
        have there := each (offset + 1) other found
        rwa [show index + (offset + 1) = index + 1 + offset by omega] at there
      rw [List.mapM_cons]
      cases first : value item with
      | error error =>
          rw [first] at here
          exact bind_result_of_error here
      | ok result =>
          rw [first] at here
          apply (bind_result_of_ok here).trans
          cases tail : rest.mapM value with
          | error error =>
              rw [tail] at others
              exact bind_result_of_error others
          | ok values =>
              rw [tail] at others
              exact bind_result_of_ok others

/-- A loop whose calls return what a function says returns what `mapM` makes of that function. -/
theorem traverse_result {site : Nat → Site} {call : α → DbM β} {value : α → Except DbError β}
    {items : List α} (each : ∀ index item, items[index]? = some item →
      (call item (world.below (site index))).result = some (value item)) :
    (traverse site call items world).result = some (items.mapM value) := by
  apply traverseFrom_result
  intro offset item found
  rw [Nat.zero_add]
  exact each offset item found

/-- A loop returns the values of its calls, each below its own call site. -/
theorem traverseFrom_eq_ok {site : Nat → Site} {call : α → DbM β} {index : Nat} {items : List α}
    {values : List β} :
    (traverseFrom site call index items world).result = some (.ok values) ↔
      List.Forall₂ (fun (numbered : α × Nat) value =>
          (call numbered.1 (world.below (site numbered.2))).result = some (.ok value))
        (items.zipIdx index) values := by
  induction items generalizing index values with
  | nil =>
      rw [List.zipIdx_nil, List.forall₂_nil_left_iff, traverseFrom, pure_result, Option.some.injEq,
        Except.ok.injEq, eq_comm]
  | cons item rest ih =>
      simp only [traverseFrom, bind_result_eq_ok, atSite_result, ih, pure_result,
        Option.some.injEq, Except.ok.injEq, List.zipIdx_cons, List.forall₂_cons_left_iff]
      constructor
      · rintro ⟨value, first, others, tail, rfl⟩
        exact ⟨value, others, first, tail, rfl⟩
      · rintro ⟨value, others, first, tail, rfl⟩
        exact ⟨value, first, others, tail, rfl⟩

/-- A loop whose calls return the same at every site. -/
theorem traverse_eq_ok {site : Nat → Site} {call : α → DbM β}
    {returns : α → β → Prop}
    (each : ∀ index item value, (call item (world.below (site index))).result = some (.ok value) ↔
      returns item value) {items : List α} {values : List β} :
    (traverse site call items world).result = some (.ok values) ↔
      List.Forall₂ returns items values := by
  rw [traverse, traverseFrom_eq_ok]
  simp only [each]
  rw [← List.forall₂_map_left_iff (f := Prod.fst)]
  simp

/-- A loop ends when every call does. -/
theorem traverse_isSome {site : Nat → Site} {call : α → DbM β} {items : List α}
    (each : ∀ index, ∀ item ∈ items, (call item (world.below (site index))).result.isSome) :
    (traverse site call items world).result.isSome := by
  have loop : ∀ index, (traverseFrom site call index items world).result.isSome := by
    induction items with
    | nil => exact fun _ => rfl
    | cons item rest ih =>
        intro index
        refine bind_result_isSome.mpr ⟨each index item (List.mem_cons_self ..), fun _ _ => ?_⟩
        refine bind_result_isSome.mpr ⟨ih ?_ (index + 1), fun _ _ => rfl⟩
        exact fun other item member => each other item (List.mem_cons_of_mem _ member)
  exact loop 0

/-! ## Results of reading rows -/

section Reads

variable {decodes others : Prop} {post : α → Prop} {holds : Except DbError β → Prop}
  {first : DbM α} {second : α → DbM β}

/-- The outcome is a value with the property. -/
def Yields (post : α → Prop) (outcome : Except DbError α) : Prop :=
  ∃ value, outcome = .ok value ∧ post value

/-- As long as the rows to read decode the outcome has the property; otherwise it is an error
of SQLite. -/
def Reads (decodes : Prop) (holds : Except DbError α → Prop)
    (result : Option (Except DbError α)) : Prop :=
  decodes ∧ (∃ outcome, result = some outcome ∧ holds outcome) ∨
    ¬ decodes ∧ ∃ cause, result = some (.error (.sqlite cause))

/-- A result for which no row is read. -/
theorem reads_of_eq {result : Option (Except DbError β)} {outcome : Except DbError β}
    (decode : decodes) (same : result = some outcome) (held : holds outcome) :
    Reads decodes holds result :=
  .inl ⟨decode, outcome, same, held⟩

/-- What decodes can be stated in an equivalent way. -/
theorem Reads.congr {result : Option (Except DbError β)} (reads : Reads decodes holds result)
    (same : decodes ↔ others) : Reads others holds result := by
  rwa [Reads, ← same]

/-- In a sequence the rows of both parts have to decode. -/
theorem Reads.bind (head : Reads decodes (Yields post) (first world).result)
    (tail : decodes → ∀ value, post value → Reads others holds (second value world).result) :
    Reads (decodes ∧ others) holds ((first >>= second) world).result := by
  rcases head with ⟨decode, _, result, value, rfl, held⟩ | ⟨undecodable, cause, result⟩
  · rw [bind_result_of_ok result]
    rcases tail decode value held with ⟨more, returned⟩ | ⟨undecodable, failed⟩
    · exact .inl ⟨⟨decode, more⟩, returned⟩
    · exact .inr ⟨fun both => undecodable both.2, failed⟩
  · exact .inr ⟨fun both => undecodable both.1, cause, bind_result_of_error result⟩

/-- A sequence whose second part reads nothing. -/
theorem Reads.andThen (head : Reads decodes (Yields post) (first world).result)
    (tail : decodes → ∀ value, post value →
      ∃ outcome, (second value world).result = some outcome ∧ holds outcome) :
    Reads decodes holds ((first >>= second) world).result :=
  (head.bind fun decode value held => .inl ⟨trivial, tail decode value held⟩).congr
    (and_iff_left trivial)

/-- What is read with a known outcome. -/
theorem Reads.eq_ok_iff {expected : Except DbError α} {result : Option (Except DbError α)}
    (reads : Reads decodes (· = expected) result) {value : α} :
    result = some (.ok value) ↔ decodes ∧ expected = .ok value := by
  rcases reads with ⟨decode, _, rfl, rfl⟩ | ⟨undecodable, cause, rfl⟩
  · simp [decode]
  · simp [undecodable]

end Reads

end DbM

/-! ## A world that stands still -/

/-- What `query_row` makes of the rows selected. -/
def firstRow {α β : Type} (rows : List α) (read : α → Except SqliteError β) :
    Except DbError β :=
  match rows with
  | [] => .error (.sqlite .queryReturnedNoRows)
  | row :: _ => (read row).mapError .sqlite

/-- A query for one row succeeds when there is a row and the first one decodes. -/
theorem succeeds_firstRow {α β : Type} {rows : List α} {read : α → Except SqliteError β} :
    Arisa.Std.Succeeds (firstRow rows read) ↔
      ∃ row, rows.head? = some row ∧ Arisa.Std.Succeeds (read row) := by
  cases rows with
  | nil => simp [firstRow]
  | cons row rest => simp [firstRow]

/-- No query fails, and all of them meet the same tables. -/
structure World.Still (world : World) (tables : Tables) : Prop where
  tables_eq : ∀ path, (world path).tables = tables
  poolError_eq : ∀ path, (world path).poolError = none
  fault_eq : ∀ path, (world path).fault = none

/-- The world in which every query meets the same tables. -/
def World.steady (tables : Tables) : World :=
  fun _ => ⟨tables, none, none, List.dedup, fun _ => .refl _⟩

/-- The steady world is one. -/
theorem World.steady_still (tables : Tables) : (World.steady tables).Still tables :=
  ⟨fun _ => rfl, fun _ => rfl, fun _ => rfl⟩

namespace World.Still

open DbM Arisa.Std

variable {α β : Type} {world : World} {tables : Tables}

/-- A still world is still at every site. -/
theorem below (still : world.Still tables) (site : Site) : (world.below site).Still tables where
  tables_eq path := still.tables_eq (site :: path)
  poolError_eq path := still.poolError_eq (site :: path)
  fault_eq path := still.fault_eq (site :: path)

/-- In a still world the pool has a connection. -/
theorem withConnection_result (still : world.Still tables) (body : DbM α) :
    (withConnection body world).result = (body world).result := by
  simp [withConnection, still.poolError_eq]

/-- No row is lost on the way. -/
theorem selected_eq (still : world.Still tables) (select : Tables → List α) :
    selected (world []) select = (select tables).map .ok := by
  simp [selected, still.fault_eq, still.tables_eq]

/-- A query returns what is selected from the tables, as far as it decodes. -/
theorem queryMap_result (still : world.Still tables) (select : Tables → List α)
    (read : α → Except SqliteError β) :
    (queryMap select read world).result =
      some (((select tables).mapM read).mapError .sqlite) := by
  simp only [queryMap, still.selected_eq, List.mapM_map]
  rfl

/-- A query for one row returns the first one. -/
theorem queryRow_result (still : world.Still tables) (select : Tables → List α)
    (read : α → Except SqliteError β) :
    (queryRow select read world).result = some (firstRow (select tables) read) := by
  simp only [queryRow, still.selected_eq]
  cases select tables with
  | nil => rfl
  | cons row rest => rfl

end World.Still
end Arisa.Database
