import Arisa.Database.Poller

/-!
# Progress of the cursor

A page is returned all or nothing, and an error is answered by polling again from
the same cursor. So the first row beyond the cursor that does not decode stops
the poller at the page it is in.
-/

namespace Arisa.Database

open Arisa.Proto Arisa.Semantics Arisa.Std DbM

/-- The cursor after a poll and the loop over its page. -/
def cursorAfter (cursor : Int64) (world : World) : Int64 :=
  match (messagesAfter cursor pageLimit world).result with
  | some (.ok rows) => rows.foldl (fun last row => max last row.databaseId) cursor
  | _ => cursor

/-- The cursor after a number of polls. -/
def cursorAt (worlds : Nat → World) (cursor : Int64) : Nat → Int64
  | 0 => cursor
  | polls + 1 => cursorAfter (cursorAt worlds cursor polls) (worlds polls)

/-- The row is in a page that some poll returns. -/
def EventuallyRead (worlds : Nat → World) (cursor : Int64) (log : ChatLog) : Prop :=
  ∃ polls rows, (messagesAfter (cursorAt worlds cursor polls) pageLimit (worlds polls)).result =
    some (.ok rows) ∧ ∃ row ∈ rows, readMessage log = .ok row

section Loop

variable (serde : Serde) (database : Database)

/-- The loop over a page, up to its end. -/
inductive Processes : PollerState → PollerState → Prop where
  | done {state} (idle : state.page = []) : Processes state state
  | next {state taken middle last}
      (transition : PollerStep serde database state (.take taken) middle)
      (rest : Processes middle last) : Processes state last

variable {serde database}

/-- After a page the cursor stands on the largest id in it. -/
theorem Processes.lastDatabaseId {state last : PollerState}
    (processed : Processes serde database state last) :
    last.lastDatabaseId =
      state.page.foldl (fun last row => max last row.databaseId) state.lastDatabaseId := by
  induction processed with
  | done idle => rw [idle, List.foldl_nil]
  | next transition _ ih =>
      cases transition with
      | take next _ => rw [ih, next, List.foldl_cons, PollerState.process]

/-- `cursorAfter` is the cursor of the poller after one turn of its loop. -/
theorem turn_lastDatabaseId {state last : PollerState} {world : World} (idle : state.page = [])
    (processed : Processes serde database (state.poll world) last) :
    last.lastDatabaseId = cursorAfter state.lastDatabaseId world := by
  rw [processed.lastDatabaseId, PollerState.poll, cursorAfter]
  rcases (messagesAfter state.lastDatabaseId pageLimit world).result with _ | error | rows
  · rw [idle, List.foldl_nil]
  · rw [idle, List.foldl_nil]
  · rfl

end Loop

section Pages

variable {tables : Tables} {world : World} {cursor : Int64}

/-- A page that decodes is consumed. -/
theorem cursorAfter_of_decodable (still : world.Still tables)
    (decodable : ∀ log ∈ (rowsAfter cursor tables).take pageLimit, Succeeds (readMessage log)) :
    rowsAfter (cursorAfter cursor world) tables = (rowsAfter cursor tables).drop pageLimit ∧
      (rowsAfter cursor tables ≠ [] → cursor < cursorAfter cursor world) := by
  obtain ⟨rows, read⟩ := succeeds_mapM.mpr decodable
  have split := (List.take_append_drop pageLimit (rowsAfter cursor tables)).symm
  obtain ⟨left, further⟩ := rowsAfter_page split read
  have returned : (messagesAfter cursor pageLimit world).result = some (.ok rows) := by
    rw [messagesAfter_result still, read]
    rfl
  rw [cursorAfter, returned]
  refine ⟨left, fun beyond => further ?_⟩
  intro empty
  rcases List.take_eq_nil_iff.mp empty with zero | none
  · cases zero
  · exact beyond none

/-- A page that does not decode leaves the cursor where it was. -/
theorem cursorAfter_of_undecodable (still : world.Still tables)
    (undecodable : ¬ ∀ log ∈ (rowsAfter cursor tables).take pageLimit,
      Succeeds (readMessage log)) : cursorAfter cursor world = cursor := by
  rw [cursorAfter, messagesAfter_result still]
  cases read : ((rowsAfter cursor tables).take pageLimit).mapM readMessage with
  | ok rows => exact absurd (succeeds_mapM.mp ⟨rows, read⟩) undecodable
  | error error => rfl

end Pages

section Polls

variable {tables : Tables} {worlds : Nat → World} {cursor : Int64}

/-- After any number of polls, a number of whole pages was consumed, all decodable. -/
theorem cursorAt_pages (still : ∀ poll, (worlds poll).Still tables) (polls : Nat) :
    ∃ pages, rowsAfter (cursorAt worlds cursor polls) tables =
        (rowsAfter cursor tables).drop (pageLimit * pages) ∧
      ∀ log ∈ (rowsAfter cursor tables).take (pageLimit * pages), Succeeds (readMessage log) := by
  induction polls with
  | zero => exact ⟨0, rfl, by simp⟩
  | succ polls ih =>
      obtain ⟨pages, left, decoded⟩ := ih
      by_cases decodable : ∀ log ∈ (rowsAfter (cursorAt worlds cursor polls) tables).take pageLimit,
          Succeeds (readMessage log)
      · refine ⟨pages + 1, ?_, ?_⟩
        · rw [cursorAt, (cursorAfter_of_decodable (still polls) decodable).1, left, List.drop_drop,
            Nat.mul_succ]
        · intro log member
          rw [Nat.mul_succ, List.take_add, List.mem_append] at member
          rcases member with earlier | later
          · exact decoded log earlier
          · exact decodable log (left ▸ later)
      · refine ⟨pages, ?_, decoded⟩
        rw [cursorAt, cursorAfter_of_undecodable (still polls) decodable, left]

/-- As long as the pages decode, each poll consumes one. -/
theorem cursorAt_of_decodable (still : ∀ poll, (worlds poll).Still tables) {pages : Nat}
    (decodable : ∀ log ∈ (rowsAfter cursor tables).take (pageLimit * pages),
      Succeeds (readMessage log)) :
    rowsAfter (cursorAt worlds cursor pages) tables =
      (rowsAfter cursor tables).drop (pageLimit * pages) := by
  induction pages with
  | zero => rfl
  | succ pages ih =>
      rw [Nat.mul_succ, List.take_add] at decodable
      obtain ⟨earlier, page⟩ := List.forall_mem_append.mp decodable
      have left := ih earlier
      rw [← left] at page
      rw [cursorAt, (cursorAfter_of_decodable (still pages) page).1, left, List.drop_drop,
        Nat.mul_succ]

/-- A row is read in time exactly when all rows up to the end of its page decode. -/
theorem eventuallyRead_iff (still : ∀ poll, (worlds poll).Still tables) {index : Nat}
    {log : ChatLog} (stored : (rowsAfter cursor tables)[index]? = some log) :
    EventuallyRead worlds cursor log ↔
      ∀ other ∈ (rowsAfter cursor tables).take (pageLimit * (index / pageLimit + 1)),
        Succeeds (readMessage other) := by
  have position : pageLimit * (index / pageLimit) + index % pageLimit = index :=
    Nat.div_add_mod index pageLimit
  have within : index % pageLimit < pageLimit := Nat.mod_lt _ (by decide)
  constructor
  · rintro ⟨polls, rows, returned, row, member, read⟩
    obtain ⟨pages, left, decoded⟩ := @cursorAt_pages _ _ cursor still polls
    have page := messagesAfter_eq_ok returned
    rw [(still polls).tables_eq, left] at page
    -- The row of the page is the stored row, so the page is the row's own.
    obtain ⟨other, inPage, same⟩ := exists_item_of_mem page member
    obtain ⟨offset, bound, found⟩ : ∃ offset < pageLimit,
        (rowsAfter cursor tables)[pageLimit * pages + offset]? = some other := by
      obtain ⟨offset, found⟩ := List.mem_iff_getElem?.mp inPage
      rw [List.getElem?_take] at found
      split at found
      · exact ⟨offset, ‹_›, by rwa [List.getElem?_drop] at found⟩
      · cases found
    have place := rowsAfter_index_unique stored found
      ((readMessage_keys read).1.trans (readMessage_keys same).1.symm)
    have own : index / pageLimit = pages := by
      rw [place, Nat.mul_add_div (by decide), Nat.div_eq_of_lt bound, Nat.add_zero]
    rw [own, Nat.mul_succ, List.take_add, List.forall_mem_append]
    exact ⟨decoded, succeeds_mapM.mp ⟨rows, page⟩⟩
  · intro decodable
    rw [Nat.mul_succ, List.take_add, List.forall_mem_append] at decodable
    obtain ⟨earlier, page⟩ := decodable
    have left := cursorAt_of_decodable still earlier
    obtain ⟨rows, read⟩ := succeeds_mapM.mpr page
    have inPage : log ∈ ((rowsAfter cursor tables).drop
        (pageLimit * (index / pageLimit))).take pageLimit := by
      rw [List.mem_iff_getElem?]
      refine ⟨index % pageLimit, ?_⟩
      rw [List.getElem?_take_of_lt within, List.getElem?_drop, position, stored]
    obtain ⟨row, member, same⟩ := exists_value_of_mem read inPage
    refine ⟨index / pageLimit, rows, ?_, row, member, same⟩
    rw [messagesAfter_result (still _), left, read]
    rfl

/-- With rows beyond it and no fault, a poll moves the cursor exactly when its whole
page decodes; a row is read in time exactly when all rows up to the end of its page
decode. -/
theorem poll_progress_iff (still : ∀ poll, (worlds poll).Still tables)
    (beyond : rowsAfter cursor tables ≠ []) :
    (cursor < cursorAfter cursor (worlds 0) ↔
      ∀ log ∈ (rowsAfter cursor tables).take pageLimit, Succeeds (readMessage log)) ∧
    ∀ index log, (rowsAfter cursor tables)[index]? = some log →
      (EventuallyRead worlds cursor log ↔
        ∀ other ∈ (rowsAfter cursor tables).take (pageLimit * (index / pageLimit + 1)),
          Succeeds (readMessage other)) := by
  refine ⟨⟨?_, ?_⟩, fun index log stored => eventuallyRead_iff still stored⟩
  · intro advanced
    by_contra undecodable
    rw [cursorAfter_of_undecodable (still 0) undecodable] at advanced
    exact Int64.lt_irrefl advanced
  · intro decodable
    exact (cursorAfter_of_decodable (still 0) decodable).2 beyond

end Polls

/-- One stored message moves the cursor. -/
theorem poll_progress_oneMessage :
    0 < cursorAfter 0 (World.steady (textTables plainRoom)) := by
  have beyond : rowsAfter 0 (textTables plainRoom) ≠ [] := by
    rw [rowsAfter_textTables]
    exact List.cons_ne_nil _ _
  have progress := @poll_progress_iff (textTables plainRoom)
    (fun _ => World.steady (textTables plainRoom)) 0 (fun _ => World.steady_still _) beyond
  apply progress.1.mpr
  intro log member
  rw [rowsAfter_textTables] at member
  rw [List.mem_singleton.mp (List.mem_of_mem_take member)]
  exact ⟨textRow, rfl⟩

/-- No run takes the cursor past a row that does not decode. -/
theorem undecodable_blocks {serde : Serde} {database : Database} {trace : List PollerLabel}
    {state : PollerState} (run : (poller serde database).Runs trace state) {log : ChatLog}
    (stored : log ∈ state.tables.chatLogs) (started : state.start < log.databaseId)
    (undecodable : ¬ Succeeds (readMessage log)) : state.lastDatabaseId < log.databaseId := by
  by_contra reached
  have passed : log ∈ state.passed :=
    List.mem_filter.mpr ⟨mem_rowsAfter.mpr ⟨stored, started⟩,
      decide_eq_true (Int64.not_lt.mp reached)⟩
  obtain ⟨row, -, read⟩ := exists_value_of_mem (pollerInvariant run).passed passed
  exact undecodable ⟨row, read⟩

/-! ## A row without a user -/

/-- A row whose `user_id` is NULL, which is read as an `i64`. -/
def nullUserLog : ChatLog :=
  ⟨1, .integer 1, .integer 1, .integer 7, .null, .text "hello!", .null, .null, .null, .integer 1⟩

def laterLog : ChatLog :=
  ⟨2, .integer 2, .integer 1, .integer 7, .integer 100, .text "hello?", .null, .null, .null,
    .integer 1⟩

def stalledTables : Tables :=
  { textTables plainRoom with
    chatLogs := [nullUserLog, laterLog]
    primaryKey := by decide }

/-- The page of the example has a row that does not decode. -/
theorem stalledTables_undecodable :
    ¬ ∀ log ∈ (rowsAfter 0 stalledTables).take pageLimit, Succeeds (readMessage log) := by
  intro decodable
  have short : (rowsAfter 0 stalledTables).length ≤ pageLimit := by
    rw [rowsAfter, List.length_mergeSort]
    exact (List.length_filter_le _ _).trans (by decide)
  have member : nullUserLog ∈ rowsAfter 0 stalledTables :=
    mem_rowsAfter.mpr ⟨by decide, by decide⟩
  obtain ⟨row, read⟩ := decodable nullUserLog (by rwa [List.take_of_length_le short])
  cases read

/-- The row stalls the poller: the cursor never moves and the decodable row behind
it is never read. -/
theorem nullUser_stalls :
    laterLog ∈ rowsAfter 0 stalledTables ∧ Succeeds (readMessage laterLog) ∧
    (∀ polls, cursorAt (fun _ => World.steady stalledTables) 0 polls = 0) ∧
    ¬ EventuallyRead (fun _ => World.steady stalledTables) 0 laterLog := by
  have stays : ∀ polls, cursorAt (fun _ => World.steady stalledTables) 0 polls = 0 := by
    intro polls
    induction polls with
    | zero => rfl
    | succ polls ih =>
        rw [cursorAt, ih]
        exact cursorAfter_of_undecodable (World.steady_still _) stalledTables_undecodable
  refine ⟨mem_rowsAfter.mpr ⟨by decide, by decide⟩, ⟨_, rfl⟩, stays, ?_⟩
  rintro ⟨polls, rows, returned, -⟩
  rw [stays] at returned
  exact stalledTables_undecodable (succeeds_mapM.mp ⟨rows, messagesAfter_eq_ok returned⟩)

end Arisa.Database
