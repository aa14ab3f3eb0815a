import Arisa.Database.Faults

/-!
# The rows that were there before the poller

The start cursor is meant to lie behind every row of the table. It does when the
first query returns; when that query fails the cursor is 0, and the rows with a
positive `_id` are read as if they were new.
-/

namespace Arisa.Database

open Arisa.Proto Arisa.Semantics Arisa.Std DbM

section History

variable (serde : Serde) (database : Database)

/-- The poller after its first query. -/
def PollerState.started (world : World) : PollerState :=
  ⟨(world []).tables, startCursor world, startCursor world, [], []⟩

/-- A step of the poller; the tables may change in any way between two queries. -/
inductive FreeStep : PollerState → PollerLabel → PollerState → Prop where
  | loop {state label next} (step : PollerStep serde database state label next) :
      FreeStep state label next
  | write (state : PollerState) (tables : Tables) : FreeStep state .write { state with tables }

def freePoller : System PollerState PollerLabel where
  Initial state := ∃ world, state = .started world
  Step := FreeStep serde database

/-- The events sent are those of rows taken from a page, and none of them is of a row that was in
the table at the start. -/
structure NeverReplayed (atStart : Tables) (trace : List PollerLabel) (state : PollerState) :
    Prop where
  sent : state.sent = (takenRows trace).filterMap fun taken =>
    deliver serde database taken.world taken.fuel taken.row
  fresh : ∀ taken ∈ takenRows trace,
    (deliver serde database taken.world taken.fuel taken.row).isSome →
    ∀ log ∈ atStart.chatLogs, log.databaseId ≠ taken.row.databaseId

/-- What holds along the steps of a poller that started from a cursor. -/
structure BeyondStart (start : Int64) (trace : List PollerLabel) (state : PollerState) :
    Prop where
  cursor : start ≤ state.lastDatabaseId
  page : ∀ row ∈ state.page, start < row.databaseId
  taken : ∀ taken ∈ takenRows trace, start < taken.row.databaseId
  sent : state.sent = (takenRows trace).filterMap fun taken =>
    deliver serde database taken.world taken.fuel taken.row

end History

section Beyond

variable {serde : Serde} {database : Database}

/-- Neither of two ids is beyond the larger one. -/
theorem le_max_keys (left right : Int64) : left ≤ max left right ∧ right ≤ max left right := by
  have larger : max left right = if left ≤ right then right else left := rfl
  rw [larger]
  split
  · next le => exact ⟨le, Int64.le_refl _⟩
  · next lt => exact ⟨Int64.le_refl _, Int64.le_of_lt (Int64.not_le.mp lt)⟩

/-- The rows of a page lie beyond the cursor it was asked with. -/
theorem messagesAfter_beyond {cursor : Int64} {limit : Nat} {world : World}
    {rows : List MessageRow}
    (returned : (messagesAfter cursor limit world).result = some (.ok rows)) :
    ∀ row ∈ rows, cursor < row.databaseId := by
  intro row member
  obtain ⟨log, found, read⟩ := exists_item_of_mem (messagesAfter_eq_ok returned) member
  rw [← (readMessage_keys read).1]
  exact (mem_rowsAfter.mp (List.mem_of_mem_take found)).2

/-- A poll reads nothing at or before the start. -/
theorem BeyondStart.poll {start : Int64} {trace : List PollerLabel} {state : PollerState}
    (beyond : BeyondStart serde database start trace state) (world : World) :
    BeyondStart serde database start (trace ++ [.poll world]) (state.poll world) := by
  have rows : takenRows (trace ++ [.poll world]) = takenRows trace := by simp [takenRows]
  have kept : BeyondStart serde database start (trace ++ [.poll world]) state :=
    ⟨beyond.cursor, beyond.page, rows ▸ beyond.taken, rows ▸ beyond.sent⟩
  unfold PollerState.poll
  split
  · next page returned =>
      refine ⟨kept.cursor, fun row member => ?_, kept.taken, kept.sent⟩
      exact Int64.lt_of_le_of_lt beyond.cursor (messagesAfter_beyond returned row member)
  · exact kept

/-- Nothing at or before the start is taken. -/
theorem BeyondStart.take {start : Int64} {trace : List PollerLabel} {state : PollerState}
    (beyond : BeyondStart serde database start trace state) (world : World) (fuel : Nat)
    {row : MessageRow} {rest : List MessageRow} (next : state.page = row :: rest) :
    BeyondStart serde database start (trace ++ [.take ⟨row, world, fuel⟩])
      (state.process serde database world fuel row rest) := by
  have rows : takenRows (trace ++ [.take ⟨row, world, fuel⟩]) =
      takenRows trace ++ [⟨row, world, fuel⟩] := by
    simp [takenRows]
  have first : start < row.databaseId := beyond.page row (next ▸ List.mem_cons_self)
  refine ⟨?_, fun other member => ?_, fun taken member => ?_, ?_⟩
  · exact Int64.le_trans beyond.cursor (le_max_keys _ _).1
  · exact beyond.page other (next ▸ List.mem_cons_of_mem _ member)
  · rw [rows] at member
    rcases List.mem_append.mp member with earlier | last
    · exact beyond.taken taken earlier
    · rw [List.mem_singleton.mp last]
      exact first
  · change state.sent ++ _ = _
    rw [rows, List.filterMap_append, beyond.sent]
    cases sent : deliver serde database world fuel row with
    | none => simp [sent]
    | some event => simp [sent]

/-- Whatever the queries meet and however the tables change, the rows read lie beyond the start. -/
theorem beyondStart {world : World} {trace : List PollerLabel} {state : PollerState}
    (steps : (freePoller serde database).Steps (.started world) trace state) :
    BeyondStart serde database (startCursor world) trace state := by
  induction steps with
  | refl => exact ⟨Int64.le_refl _, nofun, nofun, rfl⟩
  | @step trace state label next prior transition beyond =>
      have unmoved : ∀ tables, BeyondStart serde database (startCursor world) (trace ++ [.write])
          { state with tables } := by
        intro tables
        have rows : takenRows (trace ++ [.write]) = takenRows trace := by simp [takenRows]
        exact ⟨beyond.cursor, beyond.page, rows ▸ beyond.taken, rows ▸ beyond.sent⟩
      cases transition with
      | loop step =>
          cases step with
          | write _ => exact unmoved _
          | poll _ _ => exact beyond.poll _
          | take next _ => exact beyond.take _ _ next
      | write tables => exact unmoved tables

/-- `MAX(_id)` bounds every row of the table. -/
theorem le_maxDatabaseId {tables : Tables} {log : ChatLog} (member : log ∈ tables.chatLogs) :
    log.databaseId ≤ maxDatabaseId tables := by
  have bound : ∀ (ids : List Int64) (first : Int64),
      first ≤ ids.foldl max first ∧ ∀ id ∈ ids, id ≤ ids.foldl max first := by
    intro ids
    induction ids with
    | nil => exact fun first => ⟨Int64.le_refl _, nofun⟩
    | cons id rest ih =>
        intro first
        obtain ⟨above, all⟩ := ih (max first id)
        obtain ⟨left, right⟩ := le_max_keys first id
        refine ⟨Int64.le_trans left above, fun other found => ?_⟩
        rcases List.mem_cons.mp found with rfl | later
        · exact Int64.le_trans right above
        · exact all other later
  have found : log.databaseId ∈ tables.chatLogs.map ChatLog.databaseId :=
    List.mem_map_of_mem member
  unfold maxDatabaseId
  cases ids : tables.chatLogs.map ChatLog.databaseId with
  | nil =>
      rw [ids] at found
      cases found
  | cons first rest =>
      rw [ids] at found
      rcases List.mem_cons.mp found with same | later
      · rw [same]
        exact (bound rest first).1
      · exact (bound rest first).2 _ later

/-- The first query returns the largest key, or 0 for an empty table. -/
theorem latestMessageDatabaseId_eq_ok {world : World} {id : Int64}
    (returned : (latestMessageDatabaseId world).result = some (.ok id)) :
    id = maxDatabaseId (world []).tables := by
  unfold latestMessageDatabaseId withConnection at returned
  split at returned
  · cases returned
  · unfold queryRow selected at returned
    cases fault : (world []).fault with
    | none =>
        rw [fault] at returned
        cases returned
        rfl
    | some found =>
        obtain ⟨count, message⟩ := found
        rw [fault] at returned
        cases count with
        | zero => cases returned
        | succ count =>
            cases returned
            rfl

/-- The first query returned, or no row of the table has a positive key. -/
def StartsBehind (world : World) : Prop :=
  (∃ id, (latestMessageDatabaseId world).result = some (.ok id)) ∨
    ∀ log ∈ (world []).tables.chatLogs, log.databaseId ≤ 0

/-- That is exactly when every row of the table lies behind the start cursor. -/
theorem startsBehind_iff (world : World) :
    StartsBehind world ↔
      ∀ log ∈ (world []).tables.chatLogs, log.databaseId ≤ startCursor world := by
  by_cases returned : ∃ id, (latestMessageDatabaseId world).result = some (.ok id)
  · refine ⟨fun _ log member => ?_, fun _ => .inl returned⟩
    obtain ⟨id, returned⟩ := returned
    have start : startCursor world = id := by simp only [startCursor, returned]
    rw [start, latestMessageDatabaseId_eq_ok returned]
    exact le_maxDatabaseId member
  · have start : startCursor world = 0 := by
      unfold startCursor
      split
      · next id found => exact absurd ⟨id, found⟩ returned
      · rfl
    rw [start]
    exact ⟨fun behind => behind.resolve_left returned, .inr⟩

end Beyond

/-- With the start cursor behind the table, no event is ever sent for a row that was in the table
at the start, whatever the later queries meet and however the tables change. -/
theorem neverReplayed_of_startsBehind (serde : Serde) (database : Database) (world : World)
    {trace : List PollerLabel} {state : PollerState} (behind : StartsBehind world)
    (steps : (freePoller serde database).Steps (.started world) trace state) :
    NeverReplayed serde database (world []).tables trace state where
  sent := (beyondStart steps).sent
  fresh := by
    intro taken member _ log stored same
    have old := (startsBehind_iff world).mp behind log stored
    have new := (beyondStart steps).taken taken member
    rw [same] at old
    exact Int64.not_lt.mpr old new

/-- Once the first query has failed, the first poll that returns reads an old row. -/
theorem replayed_of_failure {serde : Serde} {database : Database} {world page mapping : World}
    {row : MessageRow} {rest : List MessageRow} {fuel : Nat} (failed : ¬ StartsBehind world)
    (same : (page []).tables = (world []).tables)
    (returned : (messagesAfter 0 pageLimit page).result = some (.ok (row :: rest)))
    (delivered : (deliver serde database mapping fuel row).isSome) :
    ∃ trace state, (freePoller serde database).Steps (.started world) trace state ∧
      ¬ NeverReplayed serde database (world []).tables trace state := by
  have start : startCursor world = 0 := by
    unfold startCursor
    split
    · next id found => exact absurd (.inl ⟨id, found⟩) failed
    · rfl
  have ends : isReplayed serde row = true ∨
      (mapMessage serde database fuel row mapping).result.isSome := by
    cases result : (mapMessage serde database fuel row mapping).result with
    | some outcome => exact .inr rfl
    | none =>
        unfold deliver at delivered
        split at delivered
        · cases delivered
        · rw [result] at delivered
          cases delivered
  have begun : (freePoller serde database).Steps (.started world) [] (.started world) := .refl
  have polled := begun.step
    (FreeStep.loop (@PollerStep.poll serde database (.started world) page rfl same))
  have paged : ((PollerState.started world).poll page).page = row :: rest := by
    have cursor : (PollerState.started world).lastDatabaseId = 0 := start
    rw [PollerState.poll, cursor, returned]
  have taken := polled.step (.loop (.take paged ends))
  refine ⟨_, _, taken, fun never => ?_⟩
  obtain ⟨log, found, read⟩ :=
    exists_item_of_mem (messagesAfter_eq_ok returned) List.mem_cons_self
  rw [same] at found
  have stored := (mem_rowsAfter.mp (List.mem_of_mem_take found)).1
  exact never.fresh ⟨row, mapping, fuel⟩ (by simp [takenRows]) delivered log stored
    (readMessage_keys read).1

/-- A start over a stored message: the first query returns its key. -/
theorem neverReplayed_oldMessage : ∃ state,
    (freePoller feedSerde plainDatabase).Steps (.started (World.steady (textTables plainRoom)))
      [.poll (World.steady (textTables plainRoom))] state ∧
    NeverReplayed feedSerde plainDatabase (textTables plainRoom)
      [.poll (World.steady (textTables plainRoom))] state := by
  have begun : (freePoller feedSerde plainDatabase).Steps
      (.started (World.steady (textTables plainRoom))) [] _ := .refl
  have polled := begun.step (FreeStep.loop
    (@PollerStep.poll feedSerde plainDatabase _ (World.steady (textTables plainRoom)) rfl rfl))
  exact ⟨_, polled, neverReplayed_of_startsBehind feedSerde plainDatabase
    (World.steady (textTables plainRoom)) (.inl ⟨1, rfl⟩) polled⟩

/-- A start over a stored message whose first query times out: the message is sent as new. -/
theorem failedStart_replays : ∃ (world : World) (trace : List PollerLabel) (state : PollerState),
    (freePoller feedSerde plainDatabase).Steps (.started world) trace state ∧
      ¬ NeverReplayed feedSerde plainDatabase (world []).tables trace state := by
  obtain ⟨fuel, event, mapped⟩ := textRow_maps
  let world : World := fun path =>
    { World.steady (textTables plainRoom) path with
      poolError := some "timed out waiting for connection" }
  have failed : ¬ StartsBehind world := by
    rintro (⟨id, returned⟩ | behind)
    · cases returned
    · exact absurd (behind _ (List.mem_singleton_self _)) (by decide)
  have delivered : deliver feedSerde plainDatabase (World.steady (textTables plainRoom)) fuel
      textRow = some event :=
    (@deliver_eq_some_iff _ _ ⟨textRow, World.steady (textTables plainRoom), fuel⟩ event
      (.inr (by rw [mapped]; rfl))).mpr ⟨rfl, fuel, mapped⟩
  have same : (World.steady (textTables plainRoom) []).tables = (world []).tables := rfl
  exact ⟨world, replayed_of_failure failed same textPage (Option.isSome_of_mem delivered)⟩

end Arisa.Database
