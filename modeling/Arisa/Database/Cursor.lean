import Arisa.Database.Messages
import Arisa.Database.Results
import Arisa.Std.Ascending

/-!
# Rows beyond a cursor

The query of `messages_after` returns the rows beyond a cursor in ascending order
of their key, so every statement about it is one about membership.
-/

namespace Arisa.Database

open Arisa.Std DbM

/-- The order of `ORDER BY _id`. -/
def Precedes (left right : ChatLog) : Prop :=
  left.databaseId < right.databaseId

/-- No two rows come before each other. -/
theorem precedes_asymm (left right : ChatLog) (forward : Precedes left right) :
    ¬ Precedes right left := by
  unfold Precedes at *
  grind

section RowsAfter

variable {cursor : Int64} {tables : Tables}

/-- Behind the cursor are the stored rows of larger ids. -/
theorem mem_rowsAfter {log : ChatLog} :
    log ∈ rowsAfter cursor tables ↔ log ∈ tables.chatLogs ∧ cursor < log.databaseId := by
  rw [rowsAfter, List.mem_mergeSort, List.mem_filter, decide_eq_true_iff]

/-- The rows are in strictly ascending order. -/
theorem rowsAfter_ascending (cursor : Int64) (tables : Tables) :
    (rowsAfter cursor tables).Pairwise Precedes := by
  have sorted : (rowsAfter cursor tables).Pairwise fun left right =>
      decide (left.databaseId ≤ right.databaseId) = true := by
    apply List.pairwise_mergeSort
    · intro first second third
      simp only [decide_eq_true_iff]
      exact Int64.le_trans
    · intro left right
      simp only [Bool.or_eq_true, decide_eq_true_iff]
      grind
  have keys : ((rowsAfter cursor tables).map ChatLog.databaseId).Nodup := by
    have permuted : (rowsAfter cursor tables).Perm (tables.chatLogs.filter fun row =>
        cursor < row.databaseId) :=
      List.mergeSort_perm _ _
    apply (permuted.map ChatLog.databaseId).nodup_iff.mpr
    exact tables.primaryKey.sublist (List.filter_sublist.map _)
  rw [List.Nodup, List.pairwise_map] at keys
  apply (sorted.and keys).imp
  rintro left right ⟨ordered, distinct⟩
  unfold Precedes
  rw [decide_eq_true_iff] at ordered
  grind

/-- A key stands at one place. -/
theorem rowsAfter_index_unique {index place : Nat} {log other : ChatLog}
    (first : (rowsAfter cursor tables)[index]? = some log)
    (second : (rowsAfter cursor tables)[place]? = some other)
    (same : log.databaseId = other.databaseId) : index = place := by
  have ascending := rowsAfter_ascending cursor tables
  have keys : ((rowsAfter cursor tables).map ChatLog.databaseId).Nodup := by
    rw [List.Nodup, List.pairwise_map]
    apply ascending.imp
    intro left right precedes
    exact Int64.ne_of_lt precedes
  have bound : index < ((rowsAfter cursor tables).map ChatLog.databaseId).length := by
    rw [List.length_map]
    exact (List.getElem?_eq_some_iff.mp first).1
  apply (List.getElem?_inj bound keys).mp
  rw [List.getElem?_map, List.getElem?_map, first, second, Option.map_some, Option.map_some, same]

/-- Taking the next row moves the cursor to it. -/
theorem rowsAfter_next {log : ChatLog} {rest : List ChatLog}
    (next : rowsAfter cursor tables = log :: rest) :
    cursor < log.databaseId ∧ rowsAfter log.databaseId tables = rest := by
  have ascending := rowsAfter_ascending cursor tables
  have head : log ∈ rowsAfter cursor tables := by rw [next]; exact List.mem_cons_self ..
  have beyond := (mem_rowsAfter.mp head).2
  rw [next, List.pairwise_cons] at ascending
  refine ⟨beyond, ?_⟩
  apply pairwise_ext precedes_asymm (rowsAfter_ascending _ tables) ascending.2
  intro other
  have members : other ∈ log :: rest ↔ other ∈ tables.chatLogs ∧ cursor < other.databaseId := by
    rw [← next, mem_rowsAfter]
  rw [mem_rowsAfter]
  constructor
  · rintro ⟨stored, after⟩
    rcases List.mem_cons.mp (members.mpr ⟨stored, by grind⟩) with rfl | later
    · grind
    · exact later
  · intro later
    have after := ascending.1 other later
    exact ⟨(members.mp (List.mem_cons_of_mem _ later)).1, after⟩

/-- Reading the next row moves a cursor beyond it and nothing else. -/
theorem rowsAfter_read {log : ChatLog} {rest : List ChatLog} {row : MessageRow}
    (next : rowsAfter cursor tables = log :: rest) (read : readMessage log = .ok row) :
    max cursor row.databaseId = log.databaseId ∧ cursor < log.databaseId ∧
      rowsAfter log.databaseId tables = rest := by
  obtain ⟨beyond, after⟩ := rowsAfter_next next
  rw [← (readMessage_keys read).1]
  exact ⟨if_pos (Int64.le_of_lt beyond), beyond, after⟩

/-- The rows taken so far gain the next one. -/
theorem rowsUpTo_next {start : Int64} {log : ChatLog} {rest : List ChatLog}
    (order : start ≤ cursor) (next : rowsAfter cursor tables = log :: rest) :
    (rowsAfter start tables).filter (fun other => other.databaseId ≤ log.databaseId) =
      (rowsAfter start tables).filter (fun other => other.databaseId ≤ cursor) ++ [log] := by
  obtain ⟨beyond, after⟩ := rowsAfter_next next
  have head : log ∈ rowsAfter cursor tables := by rw [next]; exact List.mem_cons_self ..
  apply pairwise_ext precedes_asymm ((rowsAfter_ascending start tables).filter _)
  · rw [List.pairwise_append]
    refine ⟨(rowsAfter_ascending start tables).filter _, List.pairwise_singleton _ _, ?_⟩
    intro left first right second
    rw [List.mem_filter, decide_eq_true_iff] at first
    rw [List.mem_singleton] at second
    subst second
    unfold Precedes
    grind
  · intro other
    simp only [List.mem_append, List.mem_filter, decide_eq_true_iff, List.mem_singleton,
      mem_rowsAfter]
    constructor
    · rintro ⟨⟨stored, started⟩, within⟩
      by_cases taken : other.databaseId ≤ cursor
      · exact .inl ⟨⟨stored, started⟩, taken⟩
      · have member : other ∈ log :: rest := by
          rw [← next, mem_rowsAfter]
          exact ⟨stored, by grind⟩
        rcases List.mem_cons.mp member with same | later
        · exact .inr same
        · rw [← after, mem_rowsAfter] at later
          grind
    · rintro (⟨⟨stored, started⟩, taken⟩ | rfl)
      · exact ⟨⟨stored, started⟩, by grind⟩
      · exact ⟨⟨(mem_rowsAfter.mp head).1, by grind⟩, by grind⟩

/-- Reading a page moves a cursor beyond it and nothing else. -/
theorem rowsAfter_page {front rest : List ChatLog} {rows : List MessageRow}
    (split : rowsAfter cursor tables = front ++ rest) (read : front.mapM readMessage = .ok rows) :
    rowsAfter (rows.foldl (fun last row => max last row.databaseId) cursor) tables = rest ∧
      (front ≠ [] → cursor < rows.foldl (fun last row => max last row.databaseId) cursor) := by
  have each := mapM_eq_ok_iff.mp read
  induction each generalizing cursor with
  | nil => exact ⟨split, fun nonempty => absurd rfl nonempty⟩
  | @cons log row front rows first others ih =>
      obtain ⟨moved, beyond, after⟩ := rowsAfter_read split first
      obtain ⟨left, further⟩ := ih after (mapM_eq_ok_iff.mpr others)
      rw [List.foldl_cons, moved]
      refine ⟨left, fun _ => ?_⟩
      cases front with
      | nil =>
          cases others
          exact beyond
      | cons second others =>
          have later := further (List.cons_ne_nil _ _)
          exact Int64.lt_trans beyond later

end RowsAfter

/-- The table only grew, and every new key is larger than all earlier ones. -/
def Appended (tables next : Tables) : Prop :=
  ∃ fresh, next.chatLogs.Perm (tables.chatLogs ++ fresh) ∧
    ∀ old ∈ tables.chatLogs, ∀ new ∈ fresh, old.databaseId < new.databaseId

/-- New rows are at the end of what is beyond any cursor. -/
theorem Appended.rowsAfter {tables next : Tables} (appended : Appended tables next)
    (cursor : Int64) :
    ∃ fresh, Database.rowsAfter cursor next = Database.rowsAfter cursor tables ++ fresh := by
  obtain ⟨fresh, permuted, larger⟩ := appended
  refine ⟨(Database.rowsAfter cursor next).filter (fun log => log ∉ tables.chatLogs), ?_⟩
  apply pairwise_ext precedes_asymm (rowsAfter_ascending cursor next)
  · rw [List.pairwise_append]
    refine ⟨rowsAfter_ascending cursor tables, (rowsAfter_ascending cursor next).filter _, ?_⟩
    intro left first right second
    rw [List.mem_filter, mem_rowsAfter, decide_eq_true_iff, permuted.mem_iff,
      List.mem_append] at second
    obtain ⟨⟨stored, -⟩, unknown⟩ := second
    rcases stored with old | new
    · exact absurd old unknown
    · exact larger left (mem_rowsAfter.mp first).1 right new
  · intro log
    rw [List.mem_append, List.mem_filter, mem_rowsAfter, mem_rowsAfter, decide_eq_true_iff,
      permuted.mem_iff, List.mem_append]
    tauto

/-- What was taken stays what is stored up to the cursor. -/
theorem Appended.rowsUpTo {tables next : Tables} (appended : Appended tables next)
    {start cursor : Int64} (reached : cursor = start ∨
      ∃ log ∈ tables.chatLogs, log.databaseId = cursor) :
    (Database.rowsAfter start next).filter (fun log => log.databaseId ≤ cursor) =
      (Database.rowsAfter start tables).filter (fun log => log.databaseId ≤ cursor) := by
  obtain ⟨fresh, permuted, larger⟩ := appended
  refine pairwise_ext precedes_asymm ((rowsAfter_ascending start next).filter _)
    ((rowsAfter_ascending start tables).filter _) ?_
  intro log
  simp only [List.mem_filter, mem_rowsAfter, decide_eq_true_iff, permuted.mem_iff,
    List.mem_append]
  constructor
  · rintro ⟨⟨old | new, started⟩, within⟩
    · exact ⟨⟨old, started⟩, within⟩
    · rcases reached with rfl | ⟨last, stored, rfl⟩
      · grind
      · have above := larger last stored log new
        grind
  · rintro ⟨⟨old, started⟩, within⟩
    exact ⟨⟨.inl old, started⟩, within⟩

/-- A page that was returned is the decoded front of what is beyond the cursor. -/
theorem messagesAfter_eq_ok {cursor : Int64} {limit : Nat} {world : World}
    {rows : List MessageRow}
    (returned : (messagesAfter cursor limit world).result = some (.ok rows)) :
    ((rowsAfter cursor (world []).tables).take limit).mapM readMessage = .ok rows := by
  have queried : (queryMap (fun tables => (rowsAfter cursor tables).take limit) readMessage
      world).result = some (.ok rows) := by
    unfold messagesAfter withConnection at returned
    split at returned
    · cases returned
    · exact returned
  simp only [queryMap, Option.some.injEq, mapError_eq_ok] at queried
  cases fault : (world []).fault with
  | none =>
      rw [selected, fault, List.mapM_map] at queried
      exact queried
  | some interruption =>
      obtain ⟨count, message⟩ := interruption
      -- The error of the interruption is the last item of the query.
      rw [selected, fault] at queried
      have succeeds := succeeds_mapM.mp ⟨rows, queried⟩ (.error (.sqliteFailure message)) (by simp)
      exact absurd succeeds (not_succeeds_error _)

/-- In a world that stands still, a page is returned when all of it decodes. -/
theorem messagesAfter_result {tables : Tables} {world : World} (still : world.Still tables)
    (cursor : Int64) (limit : Nat) :
    (messagesAfter cursor limit world).result =
      some ((((rowsAfter cursor tables).take limit).mapM readMessage).mapError .sqlite) := by
  rw [messagesAfter, still.withConnection_result, still.queryMap_result]

end Arisa.Database
