import Arisa.Database.Poller

/-!
# Faults while a row is mapped

The poller moves its cursor before it maps a row, so a mapping is tried once. It
tolerates a fault in the lookup of an author; any other fault of the mapping
loses the row. Faults of `messages_after` lose nothing.
-/

namespace Arisa.Database

open Arisa.Crypto Arisa.Proto Arisa.Semantics Arisa.Std DbM

/-- The queries that look up an author: of the row, or of a row embedded in it. -/
inductive AuthorPath : List Site → Prop where
  | own (path : List Site) : AuthorPath (.author :: path)
  | embedded (snapshot message : Nat) {path : List Site} (nested : AuthorPath path) :
      AuthorPath (.snapshot snapshot :: .message message :: path)

/-- The same world without its faults. -/
def World.cleared (world : World) : World :=
  fun path => { world path with poolError := none, fault := none }

/-- No query fails but the lookups of authors. -/
def OnlyAuthorsFail (world : World) : Prop :=
  ∀ path, ¬ AuthorPath path → (world path).poolError = none ∧ (world path).fault = none

/-- Two worlds that differ at most in the lookups of authors. -/
def SameOffAuthors (world other : World) : Prop :=
  ∀ path, ¬ AuthorPath path → world path = other path

/-- Without its failures such a world is the same off the authors. -/
theorem OnlyAuthorsFail.same {world : World} (onlyAuthors : OnlyAuthorsFail world) :
    SameOffAuthors world world.cleared := by
  intro path offAuthors
  obtain ⟨noPoolError, noFault⟩ := onlyAuthors path offAuthors
  rw [World.cleared, ← noPoolError, ← noFault]

namespace SameOffAuthors

variable {world other : World}

/-- Two such worlds have the same channel below them. -/
theorem channel (same : SameOffAuthors world other) :
    world.below .channel = other.below .channel := by
  ext1 path
  apply same
  rintro ⟨⟩

/-- Below each embedded message they are such worlds again. -/
theorem embedded (same : SameOffAuthors world other) (snapshot message : Nat) :
    SameOffAuthors ((world.below (.snapshot snapshot)).below (.message message))
      ((other.below (.snapshot snapshot)).below (.message message)) := by
  intro path offAuthors
  apply same
  rintro (_ | ⟨_, _, nested⟩)
  exact offAuthors nested

/-- The rows of a snapshot are queried in the same world. -/
theorem rows (same : SameOffAuthors world other) (snapshot : Nat) (channelId messageId : Int64) :
    (getMessageRows channelId [messageId] (world.below (.snapshot snapshot))).result =
      (getMessageRows channelId [messageId] (other.below (.snapshot snapshot))).result := by
  have here : world.below (.snapshot snapshot) [] = other.below (.snapshot snapshot) [] :=
    same _ (by rintro ⟨⟩)
  have connection : world.below (.snapshot snapshot) [.connection] =
      other.below (.snapshot snapshot) [.connection] :=
    same _ (by rintro ⟨⟩)
  have chunks : ∀ chunk, (world.below (.snapshot snapshot)).below (.rows chunk) =
      (other.below (.snapshot snapshot)).below (.rows chunk) := by
    intro chunk
    ext1 path
    apply same
    rintro ⟨⟩
  rw [getMessageRows, List.isEmpty_cons, if_neg (by simp)]
  unfold withConnection
  rw [connection]
  split
  · rfl
  · refine bind_result_congr (by rw [hashSet_result, hashSet_result, here]) fun uniqueIds => ?_
    refine bind_result_congr (traverse_result_congr (fun index chunk => ?_) _) fun found => ?_
    · rw [chunks]
    · rw [ofExcept_result, ofExcept_result]

end SameOffAuthors

section Mapping

variable {serde : Serde} {database : Database} {world other : World}

/-- A search depends only on what each node answers. -/
theorem searchAll_congr {Node : Type} {search other : Node → Option Bool} {nodes : List Node}
    (agree : ∀ node ∈ nodes, search node = other node) :
    searchAll search nodes = searchAll other nodes := by
  induction nodes with
  | nil => rfl
  | cons node rest ih =>
      obtain ⟨first, others⟩ := List.forall_mem_cons.mp agree
      rw [searchAll, searchAll, first, ih others]

/-- Whether a row maps does not depend on the lookups of authors. -/
theorem verdict_mapMessage_congr (same : SameOffAuthors world other) (fuel : Nat)
    (row : MessageRow) :
    verdict (mapMessage serde database fuel row world).result =
      verdict (mapMessage serde database fuel row other).result := by
  induction fuel generalizing row world other with
  | zero => rfl
  | succ fuel ih =>
      -- One snapshot: the same rows, each mapped in worlds that agree again.
      have snapshot : ∀ numbered : Int64 × Nat,
          verdict (getMessageSnapshot (mapMessage serde database fuel) row.channelId numbered.1
            (world.below (.snapshot numbered.2))).result =
          verdict (getMessageSnapshot (mapMessage serde database fuel) row.channelId numbered.1
            (other.below (.snapshot numbered.2))).result := by
        rintro ⟨messageId, index⟩
        have present := raises_mapMessage serde database fuel
        rw [verdict_getMessageSnapshot present, verdict_getMessageSnapshot present,
          same.rows index]
        rcases (getMessageRows row.channelId [messageId]
          (other.below (.snapshot index))).result with _ | error | found
        · rfl
        · cases error <;> rfl
        · simp only [DbM.traverse, verdict_traverseFrom]
          exact searchAll_congr fun numbered _ => ih (same.embedded index numbered.2) numbered.1
      rw [verdict_mapMessage, verdict_mapMessage, same.channel]
      simp only [snapshot]

/-- With faults in author lookups only, a row maps whenever it does without faults. -/
theorem mapMessage_of_cleared (onlyAuthors : OnlyAuthorsFail world) {fuel : Nat} {row : MessageRow}
    (ended : (mapMessage serde database fuel row world).result.isSome)
    (maps : ∃ bound event,
      (mapMessage serde database bound row world.cleared).result = some (.ok event)) :
    ∃ event, (mapMessage serde database fuel row world).result = some (.ok event) := by
  obtain ⟨bound, event, mapped⟩ := maps
  have agree := @verdict_mapMessage_congr serde database _ _ onlyAuthors.same fuel row
  obtain ⟨outcome, result⟩ := Option.isSome_iff_exists.mp ended
  rw [result] at agree ⊢
  obtain ⟨clearedOutcome, cleared⟩ : ∃ clearedOutcome,
      (mapMessage serde database fuel row world.cleared).result = some clearedOutcome := by
    rw [← Option.isSome_iff_exists, ← isSome_verdict, ← agree]
    rfl
  rw [cleared, mapMessage_unique cleared mapped] at agree
  obtain ⟨found, same⟩ := verdict_eq_true.mp agree
  exact ⟨found, same⟩

/-- A row whose channel could not be looked up is not delivered. -/
theorem deliver_of_channelFault {error : DbError} {fuel : Nat} {row : MessageRow}
    (failed : (database.getChannel serde row.channelId (world.below .channel)).result =
      some (.error error)) : deliver serde database world fuel row = none := by
  have undelivered : ∀ event,
      (mapMessage serde database fuel row world).result ≠ some (.ok event) := by
    intro event mapped
    cases fuel with
    | zero => cases mapped
    | succ fuel =>
        have verdicts := @verdict_mapMessage serde database world fuel row
        rw [mapped, failed] at verdicts
        cases verdicts
  unfold deliver
  split
  · rfl
  · split
    · rename_i event mapped
      exact absurd mapped (undelivered event)
    · rfl

end Mapping

/-! ## Rows that are lost -/

section Loss

variable (serde : Serde) (database : Database)

/-- Every row passed that is not filtered, and that maps in its world without the
faults, was sent. -/
def NoneLost (trace : List PollerLabel) (state : PollerState) : Prop :=
  ∀ log ∈ state.tables.chatLogs, state.start < log.databaseId →
    log.databaseId ≤ state.lastDatabaseId →
    ∃ taken ∈ takenRows trace, readMessage log = .ok taken.row ∧
      (isReplayed serde taken.row = false →
        (∃ fuel event, (mapMessage serde database fuel taken.row taken.world.cleared).result =
          some (.ok event)) →
        ∃ event, deliver serde database taken.world taken.fuel taken.row = some event ∧
          event ∈ state.sent)

variable {serde database}

/-- No row is lost in a run whose mappings meet faults in the lookups of authors
only, whatever polls fail. -/
theorem noneLost_of_onlyAuthorsFail {trace : List PollerLabel} {state : PollerState}
    (run : (poller serde database).Runs trace state)
    (onlyAuthors : ∀ taken ∈ takenRows trace, isReplayed serde taken.row = false →
      OnlyAuthorsFail taken.world) : NoneLost serde database trace state := by
  intro log stored started within
  have invariant := pollerInvariant run
  have passed : log ∈ state.passed :=
    List.mem_filter.mpr ⟨mem_rowsAfter.mpr ⟨stored, started⟩, decide_eq_true within⟩
  obtain ⟨row, member, read⟩ := exists_value_of_mem invariant.passed passed
  obtain ⟨taken, inTrace, rfl⟩ := List.mem_map.mp member
  refine ⟨taken, inTrace, read, ?_⟩
  intro notReplayed maps
  have ended := taken_ended run inTrace
  have result : (mapMessage serde database taken.fuel taken.row taken.world).result.isSome :=
    ended.resolve_left (by simp [notReplayed])
  obtain ⟨event, mapped⟩ :=
    mapMessage_of_cleared (onlyAuthors taken inTrace notReplayed) result maps
  have delivered := (deliver_eq_some_iff ended).mpr ⟨notReplayed, taken.fuel, mapped⟩
  refine ⟨event, delivered, ?_⟩
  rw [invariant.sent]
  exact List.mem_filterMap.mpr ⟨taken, inTrace, delivered⟩

end Loss

/-! ## One pool timeout -/

/-- The pool times out once, for the query at a site. -/
def timeoutAt (site : Site) : World :=
  fun path =>
    if path = [site, .connection] then
      { World.steady (textTables plainRoom) path with
        poolError := some "timed out waiting for connection" }
    else
      World.steady (textTables plainRoom) path

/-- The timeout of the example strikes in one place only. -/
theorem timeoutAt_off {site : Site} {path : List Site} (off : path ≠ [site, .connection]) :
    timeoutAt site path = World.steady (textTables plainRoom) path :=
  if_neg off

/-- Without the timeout the tables of the example stand still. -/
theorem timeoutAt_cleared (site : Site) :
    (timeoutAt site).cleared = World.steady (textTables plainRoom) := by
  ext1 path
  unfold World.cleared timeoutAt
  split
  · rfl
  · rfl

/-- A timeout in the lookup of the author is one that only authors see. -/
theorem timeoutAt_author : OnlyAuthorsFail (timeoutAt .author) := by
  intro path offAuthors
  have off : path ≠ [.author, .connection] := by
    rintro rfl
    exact offAuthors (.own _)
  rw [timeoutAt_off off]
  exact ⟨rfl, rfl⟩

/-- The row of the example maps where nothing fails. -/
theorem textRow_maps : ∃ fuel event, (mapMessage feedSerde plainDatabase fuel textRow
    (World.steady (textTables plainRoom))).result = some (.ok event) := by
  have found : verdict (mapMessage feedSerde plainDatabase 1 textRow
      (World.steady (textTables plainRoom))).result = some true :=
    verdict_of_search (plainRoom_available rfl) rfl (World.steady_still _) rfl
  obtain ⟨event, mapped⟩ := verdict_eq_true.mp found
  exact ⟨1, event, mapped⟩

/-- The author of the message cannot be looked up: it is sent without one. -/
theorem noneLost_of_authorTimeout : ∃ state fuel,
    NoneLost feedSerde plainDatabase
      [.write, .poll (World.steady (textTables plainRoom)),
        .take ⟨textRow, timeoutAt .author, fuel⟩] state := by
  obtain ⟨fuel, ends⟩ := textRow_ends plainRoom
  have ended : (mapMessage feedSerde plainDatabase fuel textRow
      (timeoutAt .author)).result.isSome := by
    have same : SameOffAuthors (timeoutAt .author) (World.steady (textTables plainRoom)) :=
      timeoutAt_cleared .author ▸ timeoutAt_author.same
    rw [← isSome_verdict, verdict_mapMessage_congr same, isSome_verdict]
    exact ends
  refine ⟨_, fuel, noneLost_of_onlyAuthorsFail (textRun ended) ?_⟩
  intro taken inTrace _
  rw [List.mem_singleton.mp inTrace]
  exact timeoutAt_author

/-- The channel of the message cannot be looked up: the message is lost. -/
theorem channelTimeout_loses : ∃ trace state,
    (poller feedSerde plainDatabase).Runs trace state ∧
      ¬ NoneLost feedSerde plainDatabase trace state := by
  have failed : (plainDatabase.getChannel feedSerde textRow.channelId
      ((timeoutAt .channel).below .channel)).result =
        some (.error (.pool "timed out waiting for connection")) := rfl
  have ended : (mapMessage feedSerde plainDatabase 1 textRow
      (timeoutAt .channel)).result.isSome := by
    rw [← isSome_verdict, verdict_mapMessage, failed]
    rfl
  refine ⟨_, _, textRun ended, ?_⟩
  intro noneLost
  obtain ⟨taken, inTrace, -, sent⟩ := noneLost _ (List.mem_singleton_self _) (by decide) (by decide)
  rw [List.mem_singleton.mp inTrace] at sent
  obtain ⟨event, delivered, -⟩ := sent rfl (timeoutAt_cleared .channel ▸ textRow_maps)
  rw [deliver_of_channelFault failed] at delivered
  cases delivered

end Arisa.Database
