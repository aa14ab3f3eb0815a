import Arisa.Database.Alike
import Arisa.Database.Bound
import Arisa.Database.Tolerance

/-!
# A batch of messages is its single lookups

`get_messages` reads the rows of all ids first and maps them afterwards, in the
order asked for. What it returns in a world that stands still are the events of
the single lookups; a missing row is reported before anything is mapped.
-/

namespace Arisa.Database

open Arisa.Crypto Arisa.Proto Arisa.Std DbM

section Mapped

variable {serde : Serde} {database : Database} {tables : Tables} {world : World}
  {channelId : Int64} {messageIds : List Int64} {fuel : Nat}

/-- The event of a message, in every world that stands still over the tables. -/
def MapsTo (serde : Serde) (database : Database) (tables : Tables) (fuel : Nat)
    (row : MessageRow) (event : Event) : Prop :=
  (mapMessage serde database fuel row (World.steady tables)).result = some (.ok event)

/-- What a row is mapped to depends on the tables alone, as long as they stand still. -/
theorem mapMessage_mapsTo (still : world.Still tables) {row : MessageRow} {event : Event} :
    (mapMessage serde database fuel row world).result = some (.ok event) ↔
      MapsTo serde database tables fuel row event :=
  (mapMessage_steady serde database tables fuel row world (World.steady tables) still
    (World.steady_still tables)).ok_iff event

/-- The single lookup of a message returns the event of its row. -/
def Answers (serde : Serde) (database : Database) (tables : Tables) (channelId : Int64)
    (fuel : Nat) (messageId : Int64) (event : Event) : Prop :=
  MessageDecodes tables channelId messageId ∧
    ∃ row, messageRow tables channelId messageId = some row ∧
      MapsTo serde database tables fuel row event

/-- Answering several ids is answering each of them. -/
theorem getMessages_eq_ok (still : world.Still tables) {events : List Event} :
    (getMessages (mapMessage serde database fuel) channelId messageIds world).result =
        some (.ok events) ↔
      List.Forall₂ (Answers serde database tables channelId fuel) messageIds events := by
  unfold Answers getMessages
  rw [bind_result_eq_ok, List.forall₂_and_left, ← forall₂_comp]
  have mapped {rows : List MessageRow} :
      (traverse .message (mapMessage serde database fuel) rows world).result =
          some (.ok events) ↔
        List.Forall₂ (MapsTo serde database tables fuel) rows events :=
    traverse_eq_ok fun index row event => mapMessage_mapsTo (still.below (.message index))
  simp only [mapped, (getMessageRows_spec still).eq_ok_iff, requestedRows_eq_ok, and_assoc,
    exists_and_left]

/-- Answering one id is the case of a single one. -/
theorem getMessage_eq_ok (still : world.Still tables) {messageId : Int64} {event : Event} :
    (getMessage (mapMessage serde database fuel) channelId messageId world).result =
        some (.ok event) ↔
      Answers serde database tables channelId fuel messageId event := by
  rw [getMessage, bind_result_eq_ok]
  simp only [getMessages_eq_ok still]
  constructor
  · rintro ⟨events, each, first⟩
    obtain ⟨answer, _, here, none, rfl⟩ := List.forall₂_cons_left_iff.mp each
    cases first
    exact here
  · intro here
    exact ⟨[event], .cons here .nil, rfl⟩

/-- A deeper bound keeps the answers. -/
theorem Answers.mono {more : Nat} (order : fuel ≤ more) {messageId : Int64} {event : Event}
    (answers : Answers serde database tables channelId fuel messageId event) :
    Answers serde database tables channelId more messageId event := by
  obtain ⟨decodes, row, found, mapped⟩ := answers
  exact ⟨decodes, row, found, mapMessage_extends order row _ _ mapped⟩

end Mapped

/-! ## The batch and its single lookups -/

/-- A batch lookup of messages against the lookup of each of its ids. -/
structure MessagesBatched (serde : Serde) (database : Database) (tables : Tables)
    (channelId : Int64) (messageIds : List Int64) (batch : World) (single : Int64 → World) :
    Prop where
  batches : Batches
    (fun messageId event => ∃ fuel, (getMessage (mapMessage serde database fuel) channelId
      messageId (single messageId)).result = some (.ok event))
    messageIds
    fun events => ∃ fuel, (getMessages (mapMessage serde database fuel) channelId messageIds
      batch).result = some (.ok events)
  /-- Every event comes from a row of the channel with the id asked for. -/
  ownRows : ∀ fuel events, (getMessages (mapMessage serde database fuel) channelId messageIds
      batch).result = some (.ok events) →
    List.Forall₂ (fun messageId event => ∃ log ∈ tables.chatLogs, ∃ row,
      readMessage log = .ok row ∧ row.channelId = channelId ∧ row.messageId = messageId ∧
        MapsTo serde database tables fuel row event) messageIds events
  /-- The first id without a row is named, whatever the mapping of the others would say. -/
  firstMissing : (∀ messageId ∈ messageIds, MessageDecodes tables channelId messageId) →
    ∀ before messageId after, messageIds = before ++ messageId :: after →
      (∀ earlier ∈ before, HasMessage tables channelId earlier) →
      ¬ HasMessage tables channelId messageId →
      ∀ fuel, (getMessages (mapMessage serde database fuel) channelId messageIds batch).result =
        some (.error (.messageNotFound messageId))
  /-- The batch ends when the mapping of each of its rows does. -/
  ends : (∀ log ∈ tables.chatLogs, ∀ row, readMessage log = .ok row → row.channelId = channelId →
      row.messageId ∈ messageIds →
      ∃ fuel, (mapMessage serde database fuel row (World.steady tables)).result.isSome) →
    ∃ fuel, (getMessages (mapMessage serde database fuel) channelId messageIds
      batch).result.isSome

section Batched

variable {serde : Serde} {database : Database} {tables : Tables} {world : World}
  {channelId : Int64} {messageIds : List Int64} {single : Int64 → World}

/-- One number of steps is enough for all rows asked for. -/
theorem rows_end
    (terminates : ∀ log ∈ tables.chatLogs, ∀ row, readMessage log = .ok row →
      row.channelId = channelId → row.messageId ∈ messageIds →
      ∃ fuel, (mapMessage serde database fuel row (World.steady tables)).result.isSome)
    {rows : List MessageRow} (requested : requestedRows tables channelId messageIds = .ok rows) :
    ∃ fuel, ∀ row ∈ rows,
      (mapMessage serde database fuel row (World.steady tables)).result.isSome := by
  refine exists_bound_forall (fun order row ended => ?_) fun row listed => ?_
  · obtain ⟨result, same⟩ := Option.isSome_iff_exists.mp ended
    exact Option.isSome_iff_exists.mpr ⟨result, mapMessage_extends order row _ result same⟩
  · obtain ⟨index, bound, rfl⟩ := List.getElem_of_mem listed
    have each := requestedRows_eq_ok.mp requested
    have within : index < messageIds.length := each.length_eq ▸ bound
    obtain ⟨channel, id, log, stored, read⟩ := messageRow_channel (each.get within bound)
    refine terminates log stored _ read channel ?_
    rw [List.get_eq_getElem] at id
    rw [id]
    exact List.getElem_mem within

/-- A batch of messages is its single lookups, in every iteration order. -/
theorem getMessages_batched (still : world.Still tables)
    (singles : ∀ messageId, (single messageId).Still tables) :
    MessagesBatched serde database tables channelId messageIds world single where
  batches := by
    apply Batches.of_forall₂
    intro events
    simp only [getMessages_eq_ok still, getMessage_eq_ok (singles _)]
    exact @exists_bound_forall₂ _ _ (Answers serde database tables channelId)
      (fun order _ _ => Answers.mono order) _ _
  ownRows fuel events returned := by
    refine ((getMessages_eq_ok still).mp returned).imp ?_
    rintro messageId event ⟨-, row, found, mapped⟩
    obtain ⟨channel, id, log, listed, read⟩ := messageRow_channel found
    exact ⟨log, listed, row, read, channel, id, mapped⟩
  firstMissing decode before messageId after whole present absent fuel := by
    rcases @getMessageRows_spec _ _ channelId messageIds still with
      ⟨-, _, result, rfl⟩ | ⟨undecodable, -⟩
    · have missing : requestedRows tables channelId messageIds =
          .error (.messageNotFound messageId) := by
        rw [requestedRows, mapM_eq_error_iff]
        refine ⟨before, messageId, after, whole, ?_, ?_⟩
        · intro earlier listed
          have asked : earlier ∈ messageIds := by simp [whole, listed]
          obtain ⟨row, found⟩ := Option.isSome_iff_exists.mp
            ((messageRow_isSome (decode earlier asked)).mpr (present earlier listed))
          rw [found]
          exact succeeds_ok row
        · have asked : messageId ∈ messageIds := by simp [whole]
          have none := Option.not_isSome_iff_eq_none.mp fun found =>
            absent ((messageRow_isSome (decode messageId asked)).mp found)
          rw [none]
      rw [missing] at result
      exact bind_result_of_error result
    · exact absurd decode undecodable
  ends terminates := by
    rcases @getMessageRows_spec _ _ channelId messageIds still with
      ⟨-, _, result, rfl⟩ | ⟨-, cause, result⟩
    · cases requested : requestedRows tables channelId messageIds with
      | error missing =>
          rw [requested] at result
          exact ⟨0, by rw [getMessages, bind_result_of_error result]; rfl⟩
      | ok rows =>
          rw [requested] at result
          obtain ⟨fuel, mapped⟩ := rows_end terminates requested
          refine ⟨fuel, ?_⟩
          rw [getMessages, bind_result_of_ok result]
          refine traverse_isSome fun index row listed => ?_
          exact (mapMessage_steady serde database tables fuel row _ _
            (still.below (.message index)) (World.steady_still tables)).isSome_iff.mpr
            (mapped row listed)
    · exact ⟨0, by rw [getMessages, bind_result_of_error result]; rfl⟩

end Batched

/-- One message asked for twice, and one that is not there. -/
theorem getMessages_batched_missing :
    MessagesBatched feedSerde plainDatabase (textTables plainRoom) 7 [1, 1, 2]
        (World.steady (textTables plainRoom)) (fun _ => World.steady (textTables plainRoom)) ∧
      (getMessages (mapMessage feedSerde plainDatabase 1) 7 [1, 1, 2]
        (World.steady (textTables plainRoom))).result = some (.error (.messageNotFound 2)) :=
  ⟨getMessages_batched (World.steady_still _) fun _ => World.steady_still _, rfl⟩

end Arisa.Database
