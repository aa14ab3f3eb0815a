import Arisa.Database.Bound
import Arisa.Database.Cursor
import Arisa.Database.Tolerance
import Arisa.Semantics.Execution

/-!
# The poller

The loop of `start_poller` as a step relation. Between its queries the
application may append messages and change every other table. Each query may
fail; the queries of one mapping meet a world of their own.
-/

namespace Arisa.Database

open Arisa.Proto Arisa.Semantics Arisa.Std DbM

/-- `database.latest_message_database_id().unwrap_or(0)`. -/
def startCursor (world : World) : Int64 :=
  match (latestMessageDatabaseId world).result with
  | some (.ok id) => id
  | _ => 0

/-- The `limit` of a poll. -/
def pageLimit : Nat := 100

structure PollerState where
  tables : Tables
  /-- The cursor the loop started from. -/
  start : Int64
  lastDatabaseId : Int64
  /-- The rows of the current page that are still to be processed. -/
  page : List MessageRow
  sent : List Event

section Poller

variable (serde : Serde) (database : Database)

/-- `matches!(metadata.get("origin").and_then(Value::as_str), Some("SYNCMSG" | "MCHATLOGS"))`. -/
def isReplayed (row : MessageRow) : Bool :=
  let metadata := (row.metadata.bind serde.read).getD .null
  let origin := (metadata.get "origin").bind Value.asStr
  origin = some "SYNCMSG" ∨ origin = some "MCHATLOGS"

/-- One `messages_after`; an error leaves the state as it is. -/
def PollerState.poll (state : PollerState) (world : World) : PollerState :=
  match (messagesAfter state.lastDatabaseId pageLimit world).result with
  | some (.ok rows) => { state with page := rows }
  | _ => state

/-- The event of a row, if it is sent: `none` for a filtered or unmappable row. -/
def deliver (world : World) (fuel : Nat) (row : MessageRow) : Option Event :=
  if isReplayed serde row then
    none
  else
    match (mapMessage serde database fuel row world).result with
    | some (.ok event) => some event
    | _ => none

/-- The body of the loop over a page: the cursor moves first. -/
def PollerState.process (state : PollerState) (world : World) (fuel : Nat) (row : MessageRow)
    (rest : List MessageRow) : PollerState :=
  { state with
    lastDatabaseId := max state.lastDatabaseId row.databaseId
    page := rest
    sent := state.sent ++ (deliver serde database world fuel row).toList }

/-- A row taken from a page, what its queries met, and the recursion bound. -/
structure Taken where
  row : MessageRow
  world : World
  fuel : Nat

inductive PollerLabel where
  | write
  | poll (world : World)
  | take (taken : Taken)

/-- One step of the application or of the loop. A row whose mapping never ends
has no step. -/
inductive PollerStep : PollerState → PollerLabel → PollerState → Prop where
  | write {state tables} (appended : Appended state.tables tables) :
      PollerStep state .write { state with tables }
  | poll {state world} (idle : state.page = []) (tables : (world []).tables = state.tables) :
      PollerStep state (.poll world) (state.poll world)
  | take {state world fuel row rest} (next : state.page = row :: rest)
      (ends : isReplayed serde row = true ∨
        (mapMessage serde database fuel row world).result.isSome) :
      PollerStep state (.take ⟨row, world, fuel⟩)
        (state.process serde database world fuel row rest)

def poller : System PollerState PollerLabel where
  Initial state := state.page = [] ∧ state.sent = [] ∧ state.lastDatabaseId = state.start ∧
    ∃ world : World, (world []).tables = state.tables ∧ state.start = startCursor world
  Step := PollerStep serde database

end Poller

/-- The rows a run took from its pages, in order. -/
def takenRows (trace : List PollerLabel) : List Taken :=
  trace.filterMap fun
    | .take taken => some taken
    | _ => none

/-- The stored rows that a cursor has passed, in order. -/
def PollerState.passed (state : PollerState) : List ChatLog :=
  (rowsAfter state.start state.tables).filter fun log => log.databaseId ≤ state.lastDatabaseId

section Delivery

variable (serde : Serde) (database : Database)

/-- What holds between any two steps of the poller. -/
structure PollerInvariant (trace : List PollerLabel) (state : PollerState) : Prop where
  start_le : state.start ≤ state.lastDatabaseId
  reached : state.lastDatabaseId = state.start ∨
    ∃ log ∈ state.tables.chatLogs, log.databaseId = state.lastDatabaseId
  passed : state.passed.mapM readMessage = .ok ((takenRows trace).map Taken.row)
  sent : state.sent = (takenRows trace).filterMap fun taken =>
    deliver serde database taken.world taken.fuel taken.row
  page : ∃ front rest, rowsAfter state.lastDatabaseId state.tables = front ++ rest ∧
    front.mapM readMessage = .ok state.page

variable {serde database}

/-- Nothing has been taken, and the cursor stands where the start has put it. -/
theorem PollerInvariant.initial {state : PollerState}
    (valid : (poller serde database).Initial state) :
    PollerInvariant serde database [] state := by
  obtain ⟨page, sent, cursor, -⟩ := valid
  refine ⟨by rw [cursor]; exact Int64.le_refl _, .inl cursor, ?_, by simpa [takenRows] using sent,
    [], _, rfl, by rw [page]; rfl⟩
  have none : state.passed = [] := by
    rw [PollerState.passed, cursor, List.filter_eq_nil_iff]
    intro log member
    have beyond := (mem_rowsAfter.mp member).2
    rw [decide_eq_true_iff]
    grind
  rw [none]
  rfl

/-- Rows that KakaoTalk appends come behind those of the page. -/
theorem PollerInvariant.write {trace : List PollerLabel} {state : PollerState} {tables : Tables}
    (invariant : PollerInvariant serde database trace state)
    (appended : Appended state.tables tables) :
    PollerInvariant serde database (trace ++ [.write]) { state with tables } := by
  have rows : takenRows (trace ++ [.write]) = takenRows trace := by simp [takenRows]
  obtain ⟨fresh, permuted, -⟩ := id appended
  refine ⟨invariant.start_le, ?_, ?_, by rw [rows]; exact invariant.sent, ?_⟩
  · rcases invariant.reached with atStart | ⟨log, stored, last⟩
    · exact .inl atStart
    · exact .inr ⟨log, permuted.mem_iff.mpr (List.mem_append_left _ stored), last⟩
  · rw [rows, PollerState.passed, appended.rowsUpTo invariant.reached]
    exact invariant.passed
  · obtain ⟨front, rest, split, decoded⟩ := invariant.page
    obtain ⟨later, grown⟩ := appended.rowsAfter state.lastDatabaseId
    exact ⟨front, rest ++ later, by rw [grown, split, List.append_assoc], decoded⟩

/-- A page that is read is the beginning of what lies behind the cursor. -/
theorem PollerInvariant.poll {trace : List PollerLabel} {state : PollerState} {world : World}
    (invariant : PollerInvariant serde database trace state)
    (tables : (world []).tables = state.tables) :
    PollerInvariant serde database (trace ++ [.poll world]) (state.poll world) := by
  have rows : takenRows (trace ++ [.poll world]) = takenRows trace := by simp [takenRows]
  have kept : PollerInvariant serde database (trace ++ [.poll world]) state :=
    ⟨invariant.start_le, invariant.reached, rows ▸ invariant.passed, rows ▸ invariant.sent,
      invariant.page⟩
  unfold PollerState.poll
  split
  · rename_i page returned
    have decoded := messagesAfter_eq_ok returned
    rw [tables] at decoded
    exact ⟨kept.start_le, kept.reached, kept.passed, kept.sent, _, _,
      (List.take_append_drop pageLimit _).symm, decoded⟩
  · exact kept

/-- The row that is taken is the first of the page, and the cursor comes to stand on it. -/
theorem PollerInvariant.take {trace : List PollerLabel} {state : PollerState} {world : World}
    {fuel : Nat} {row : MessageRow} {rest : List MessageRow}
    (invariant : PollerInvariant serde database trace state) (next : state.page = row :: rest) :
    PollerInvariant serde database (trace ++ [.take ⟨row, world, fuel⟩])
      (state.process serde database world fuel row rest) := by
  obtain ⟨front, later, split, decoded⟩ := invariant.page
  rw [next, mapM_eq_ok_iff, List.forall₂_cons_right_iff] at decoded
  obtain ⟨log, logs, read, others, rfl⟩ := decoded
  rw [List.cons_append] at split
  obtain ⟨moved, beyond, after⟩ := rowsAfter_read split read
  have rows : takenRows (trace ++ [.take ⟨row, world, fuel⟩]) =
      takenRows trace ++ [⟨row, world, fuel⟩] := by
    simp [takenRows]
  refine ⟨?_, .inr ⟨log, ?_, moved.symm⟩, ?_, ?_, logs, later, ?_, mapM_eq_ok_iff.mpr others⟩
  · have before := invariant.start_le
    change state.start ≤ max state.lastDatabaseId row.databaseId
    rw [moved]
    grind
  · have member : log ∈ rowsAfter state.lastDatabaseId state.tables := by
      rw [split]
      exact List.mem_cons_self ..
    exact (mem_rowsAfter.mp member).1
  · have grown : (state.process serde database world fuel row rest).passed =
        state.passed ++ [log] := by
      change (rowsAfter state.start state.tables).filter (fun other =>
        other.databaseId ≤ max state.lastDatabaseId row.databaseId) = _
      rw [moved]
      exact rowsUpTo_next invariant.start_le split
    rw [grown, rows, List.map_append, mapM_eq_ok_iff]
    exact List.rel_append (mapM_eq_ok_iff.mp invariant.passed)
      (.cons read .nil)
  · change state.sent ++ _ = _
    rw [rows, List.filterMap_append, invariant.sent]
    cases sent : deliver serde database world fuel row with
    | none => simp [sent]
    | some event => simp [sent]
  · change rowsAfter (max state.lastDatabaseId row.databaseId) state.tables = _
    rw [moved, after]

/-- So the rows taken in a run are the stored ones that the cursor has passed, in order. -/
theorem pollerInvariant {trace : List PollerLabel} {state : PollerState}
    (run : (poller serde database).Runs trace state) :
    PollerInvariant serde database trace state := by
  refine run.invariant (fun _ valid => PollerInvariant.initial valid) ?_
  intro trace state label next invariant transition
  cases transition with
  | write appended => exact invariant.write appended
  | poll _ tables => exact invariant.poll tables
  | take next _ => exact invariant.take next

/-- A step never moves the cursor back. -/
theorem PollerStep.cursor_le {state next : PollerState} {label : PollerLabel}
    (transition : PollerStep serde database state label next) :
    state.lastDatabaseId ≤ next.lastDatabaseId := by
  cases transition with
  | write => exact Int64.le_refl _
  | poll =>
      unfold PollerState.poll
      split
      · exact Int64.le_refl _
      · exact Int64.le_refl _
  | @take _ world fuel row =>
      change _ ≤ (if _ ≤ _ then _ else _)
      split
      · assumption
      · exact Int64.le_refl _

/-- A row that was taken was filtered or its mapping ended. -/
theorem taken_ended {trace : List PollerLabel} {state : PollerState}
    (run : (poller serde database).Runs trace state) {taken : Taken}
    (member : taken ∈ takenRows trace) :
    isReplayed serde taken.row = true ∨
      (mapMessage serde database taken.fuel taken.row taken.world).result.isSome := by
  obtain ⟨label, inTrace, same⟩ := List.mem_filterMap.mp member
  obtain ⟨_, _, _, _, transition, _⟩ := run.of_mem inTrace
  cases transition with
  | write => cases same
  | poll => cases same
  | take _ ends =>
      cases same
      exact ends

/-- Decoding a page keeps its row ids. -/
theorem readMessages_keys {logs : List ChatLog} {rows : List MessageRow}
    (read : logs.mapM readMessage = .ok rows) :
    rows.map MessageRow.databaseId = logs.map ChatLog.databaseId := by
  have each := mapM_eq_ok_iff.mp read
  induction each with
  | nil => rfl
  | cons first others ih =>
      rw [List.map_cons, List.map_cons, ih (mapM_eq_ok_iff.mpr others),
        (readMessage_keys first).1]

/-- A row is delivered when it is not filtered and its mapping returns an event. -/
theorem deliver_eq_some_iff {taken : Taken} {event : Event}
    (ended : isReplayed serde taken.row = true ∨
      (mapMessage serde database taken.fuel taken.row taken.world).result.isSome) :
    deliver serde database taken.world taken.fuel taken.row = some event ↔
      isReplayed serde taken.row = false ∧
        ∃ fuel, (mapMessage serde database fuel taken.row taken.world).result =
          some (.ok event) := by
  unfold deliver
  cases replayed : isReplayed serde taken.row with
  | true => simp
  | false =>
      simp only [replayed, Bool.false_eq_true, false_or, if_false, true_and] at ended ⊢
      obtain ⟨outcome, result⟩ := Option.isSome_iff_exists.mp ended
      rw [result]
      constructor
      · intro sent
        cases outcome with
        | error error => cases sent
        | ok found =>
            cases sent
            exact ⟨_, result⟩
      · rintro ⟨fuel, mapped⟩
        rw [mapMessage_unique result mapped]

/-- The events of some rows: of those that are not filtered, the ones that map to an event. -/
theorem filterMap_deliver (rows : List Taken) :
    (rows.filterMap fun taken => deliver serde database taken.world taken.fuel taken.row) =
      (rows.filter fun taken => !isReplayed serde taken.row).filterMap fun taken =>
        (mapMessage serde database taken.fuel taken.row taken.world).result.bind
          Except.toOption := by
  rw [List.filterMap_filter]
  congr 1
  funext taken
  unfold deliver
  cases isReplayed serde taken.row with
  | true => rfl
  | false =>
      rcases (mapMessage serde database taken.fuel taken.row taken.world).result with
        _ | error | event
      · rfl
      · rfl
      · rfl

/-- What a run of the poller has done. -/
structure ExactDelivery (serde : Serde) (database : Database) (trace : List PollerLabel)
    (state : PollerState) : Prop where
  /-- The rows taken are those with `start < _id <= last_database_id`. -/
  rows : state.passed.mapM readMessage = .ok ((takenRows trace).map Taken.row)
  ascending : ((takenRows trace).map Taken.row).Pairwise fun left right =>
    left.databaseId < right.databaseId
  ended : ∀ taken ∈ takenRows trace, isReplayed serde taken.row = true ∨
    (mapMessage serde database taken.fuel taken.row taken.world).result.isSome
  /-- What was sent are the `Ok` results of `map_message` for the rows that are not filtered. -/
  sent : state.sent = ((takenRows trace).filter fun taken => !isReplayed serde taken.row).filterMap
    fun taken =>
      (mapMessage serde database taken.fuel taken.row taken.world).result.bind Except.toOption
  cursor : ∀ label next, (poller serde database).Step state label next →
    state.lastDatabaseId ≤ next.lastDatabaseId
  /-- A poll that returns rows returns the first of those beyond the cursor. -/
  page : ∀ world next rows, (poller serde database).Step state (.poll world) next →
    (messagesAfter state.lastDatabaseId pageLimit world).result = some (.ok rows) →
    next.page = rows ∧
      ((rowsAfter state.lastDatabaseId state.tables).take
        (min pageLimit (rowsAfter state.lastDatabaseId state.tables).length)).mapM readMessage =
          .ok rows

/-- At every point of every run, the events sent are those of the rows passed, in
order and each once. -/
theorem poller_exact {trace : List PollerLabel} {state : PollerState}
    (run : (poller serde database).Runs trace state) :
    ExactDelivery serde database trace state where
  rows := (pollerInvariant run).passed
  ascending := by
    have ordered : state.passed.Pairwise Precedes := (rowsAfter_ascending _ _).filter _
    have keys := readMessages_keys (pollerInvariant run).passed
    have ascending : (state.passed.map ChatLog.databaseId).Pairwise (· < ·) :=
      List.pairwise_map.mpr ordered
    rw [← keys] at ascending
    exact List.pairwise_map.mp ascending
  ended _ member := taken_ended run member
  sent := (pollerInvariant run).sent.trans (filterMap_deliver _)
  cursor _ _ transition := transition.cursor_le
  page := by
    intro world next rows transition returned
    cases transition with
    | poll _ tables =>
        have decoded := messagesAfter_eq_ok returned
        rw [tables] at decoded
        rw [← List.take_eq_take_min, decoded, PollerState.poll, returned]
        exact ⟨rfl, rfl⟩

end Delivery

/-! ## A run with one message -/

/-- The tables before the message is stored. -/
def quietTables : Tables :=
  { textTables plainRoom with
    chatLogs := []
    primaryKey := by decide }

def quietState : PollerState := ⟨quietTables, 0, 0, [], []⟩

/-- The page of the example holds all that is stored. -/
theorem rowsAfter_textTables :
    rowsAfter 0 (textTables plainRoom) = (textTables plainRoom).chatLogs := by
  rw [rowsAfter, List.filter_eq_self.mpr (by decide)]
  exact List.mergeSort_singleton _

/-- The page of the example is read as its one row. -/
theorem textPage : (messagesAfter 0 pageLimit (World.steady (textTables plainRoom))).result =
    some (.ok [textRow]) := by
  rw [messagesAfter_result (World.steady_still _), rowsAfter_textTables]
  rfl

/-- The message is stored and read; its mapping meets any world. -/
theorem textRun {world : World} {fuel : Nat}
    (ends : (mapMessage feedSerde plainDatabase fuel textRow world).result.isSome) :
    (poller feedSerde plainDatabase).Runs
      [.write, .poll (World.steady (textTables plainRoom)), .take ⟨textRow, world, fuel⟩]
      (PollerState.process feedSerde plainDatabase ⟨textTables plainRoom, 0, 0, [textRow], []⟩ world
        fuel textRow []) := by
  have initial : (poller feedSerde plainDatabase).Runs [] quietState :=
    .initial ⟨rfl, rfl, rfl, World.steady quietTables, rfl, rfl⟩
  have stored : Appended quietTables (textTables plainRoom) :=
    ⟨(textTables plainRoom).chatLogs, .refl _, fun _ old => absurd old List.not_mem_nil⟩
  have written := initial.step (.write stored)
  have polled := written.step
    (@PollerStep.poll _ _ _ (World.steady (textTables plainRoom)) rfl rfl)
  rw [PollerState.poll, show quietState.lastDatabaseId = 0 from rfl, textPage] at polled
  exact polled.step (.take rfl (.inr ends))

/-! ## A run with three messages -/

/-- A text message with this id, and with this metadata. -/
def historyLog (id : Int64) (metadata : SqlValue) : ChatLog :=
  ⟨id, .integer id, .integer 1, .integer 7, .integer 100, .text "hello!", .null, metadata, .null,
    .integer 1⟩

def historyRow (id : Int64) (metadata : Option String) : MessageRow :=
  ⟨id, id, 1, 7, 100, some "hello!", none, metadata, none, 1⟩

/-- Three messages, of which the second was synchronized from another device. -/
def historyTables : Tables :=
  { textTables plainRoom with
    chatLogs := [historyLog 1 .null, historyLog 2 (.text syncedText), historyLog 3 .null]
    primaryKey := by decide }

def historyRows : List MessageRow :=
  [historyRow 1 none, historyRow 2 (some syncedText), historyRow 3 none]

/-- The rows as they are taken, each with the queries of its mapping. -/
def historyTaken : List Taken :=
  historyRows.map fun row => ⟨row, World.steady historyTables, 1⟩

/-- The messages are stored, read as one page and processed one after another. -/
def historyTrace : List PollerLabel :=
  .write :: .poll (World.steady historyTables) :: historyTaken.map .take

/-- The three messages are on one page. -/
theorem historyPage : (messagesAfter 0 pageLimit (World.steady historyTables)).result =
    some (.ok historyRows) := by
  have all : rowsAfter 0 historyTables = historyTables.chatLogs := by
    rw [rowsAfter, List.filter_eq_self.mpr (by decide)]
    exact List.mergeSort_of_pairwise (by decide)
  rw [messagesAfter_result (World.steady_still _), all]
  rfl

/-- The first and the last message map to an event. -/
theorem historyRow_maps {id : Int64} (unfiltered : id = 1 ∨ id = 3) :
    ∃ value, (mapMessage feedSerde plainDatabase 1 (historyRow id none)
      (World.steady historyTables)).result = some (.ok ⟨some value⟩) := by
  have maps : (((mapMessage feedSerde plainDatabase 1 (historyRow id none)
      (World.steady historyTables)).result.bind Except.toOption).bind Event.value).isSome := by
    rcases unfiltered with rfl | rfl <;> decide +kernel
  obtain ⟨value, found⟩ := Option.isSome_iff_exists.mp maps
  obtain ⟨⟨_⟩, returned, rfl⟩ := Option.bind_eq_some_iff.mp found
  obtain ⟨outcome, result, ok⟩ := Option.bind_eq_some_iff.mp returned
  rw [toOption_eq_some.mp ok] at result
  exact ⟨value, result⟩

/-- The synchronized message is filtered, the others are sent. -/
theorem historyTaken_delivers : ∃ first last : EventValue,
    (historyTaken.filterMap fun taken =>
      deliver feedSerde plainDatabase taken.world taken.fuel taken.row) =
        [⟨some first⟩, ⟨some last⟩] := by
  obtain ⟨first, firstMaps⟩ := historyRow_maps (.inl rfl)
  obtain ⟨last, lastMaps⟩ := historyRow_maps (.inr rfl)
  refine ⟨first, last, ?_⟩
  have unfiltered : (historyTaken.filter fun taken => !isReplayed feedSerde taken.row) =
      [⟨historyRow 1 none, World.steady historyTables, 1⟩,
        ⟨historyRow 3 none, World.steady historyTables, 1⟩] := rfl
  rw [filterMap_deliver, unfiltered]
  simp only [List.filterMap_cons, firstMaps, lastMaps, Option.bind_some, Except.toOption,
    List.filterMap_nil]

/-- The three messages come behind what was there. -/
theorem historyTables_appended : Appended quietTables historyTables :=
  ⟨historyTables.chatLogs, .refl _, fun _ old => absurd old List.not_mem_nil⟩

/-- The poller that has just started on an empty table. -/
theorem quietState_runs : (poller feedSerde plainDatabase).Runs [] quietState :=
  .initial ⟨rfl, rfl, rfl, World.steady quietTables, rfl, rfl⟩

/-- One poll and three rows, and the cursor stands on the last. -/
theorem history_steps : ∃ state,
    (poller feedSerde plainDatabase).Steps quietState historyTrace state ∧
      state.lastDatabaseId = 3 := by
  obtain ⟨first, firstMaps⟩ := historyRow_maps (.inl rfl)
  obtain ⟨last, lastMaps⟩ := historyRow_maps (.inr rfl)
  have written : (poller feedSerde plainDatabase).Steps quietState [.write]
      { quietState with tables := historyTables } :=
    .one (.write historyTables_appended)
  have polled := written.step
    (@PollerStep.poll _ _ _ (World.steady historyTables) rfl rfl)
  rw [PollerState.poll, show quietState.lastDatabaseId = 0 from rfl, historyPage] at polled
  have one := polled.step
    (@PollerStep.take _ _ _ (World.steady historyTables) 1 _ _ rfl (.inr (by rw [firstMaps]; rfl)))
  have two := one.step
    (@PollerStep.take _ _ _ (World.steady historyTables) 1 _ _ rfl (.inl (by decide)))
  have three := two.step
    (@PollerStep.take _ _ _ (World.steady historyTables) 1 _ _ rfl (.inr (by rw [lastMaps]; rfl)))
  exact ⟨_, three, by decide⟩

/-- Of the three messages two are sent. -/
theorem poller_exact_threeMessages : ∃ state first last,
    ExactDelivery feedSerde plainDatabase historyTrace state ∧ state.lastDatabaseId = 3 ∧
      state.sent = [⟨some first⟩, ⟨some last⟩] := by
  obtain ⟨state, steps, cursor⟩ := history_steps
  obtain ⟨first, last, delivers⟩ := historyTaken_delivers
  have exact_ := poller_exact (quietState_runs.append steps)
  refine ⟨state, first, last, exact_, cursor, ?_⟩
  rw [exact_.sent, ← filterMap_deliver]
  exact delivers

end Arisa.Database
