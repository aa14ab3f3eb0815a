import Arisa.Database.Availability
import Arisa.Database.Mapping
import Arisa.Database.MessageLookups

/-!
# References between rows

A feed row names the messages it is about. This module says what such a name
leads to in a world that stands still.
-/

namespace Arisa.Database

open Arisa.Crypto Arisa.Proto Arisa.Std DbM

/-- What a stored reference leads to. -/
inductive Lookup where
  /-- A row with the id does not decode. -/
  | undecodable
  | missing
  | found (row : MessageRow)
deriving DecidableEq

section Rows

variable {tables : Tables} {world : World} {channelId : Int64}

/-- The rows of a channel with the id; the last one stands for the message. -/
def lookup (tables : Tables) (channelId messageId : Int64) : Lookup :=
  match (selectMessages channelId [messageId] tables).mapM readMessage with
  | .error _ => .undecodable
  | .ok rows =>
      match rows.getLast? with
      | none => .missing
      | some row => .found row

/-- With the rows of the message decoded, a lookup finds the row that stands for it. -/
theorem lookup_of_decodes {messageId : Int64}
    (decodes : MessageDecodes tables channelId messageId) :
    lookup tables channelId messageId =
      (messageRow tables channelId messageId).elim .missing .found := by
  have filters := selectMessages_filters channelId tables
  have selected : Succeeds ((selectMessages channelId [messageId] tables).mapM readMessage) := by
    rw [succeeds_mapM]
    intro log member
    obtain ⟨listed, among⟩ := (filters.selectsBy [messageId] log).mp member
    exact forall_rowsDecode.mp (List.forall_mem_singleton.mpr decodes) log listed among
  obtain ⟨rows, read⟩ := selected
  have held := latest_selected filters (fun _ _ => readMessage_id) [messageId] messageId
  rw [if_pos (List.mem_singleton_self _), ← mapM_eq_decoded read] at held
  have same : ∀ row ∈ rows, row.messageId = messageId := by
    intro row member
    obtain ⟨log, asked, here⟩ := exists_item_of_mem read member
    have among := ((filters.selectsBy [messageId] log).mp asked).2
    rw [(readMessage_keys here).2.1, SqlValue.isIn_iff] at among
    simpa using among
  have last : rows.getLast? = messageRow tables channelId messageId := by
    rw [messageRow, ← held, latest, List.filter_eq_self.mpr]
    intro row member
    exact decide_eq_true (same row member)
  rw [lookup, read]
  simp only [last]
  cases messageRow tables channelId messageId with
  | none => rfl
  | some row => rfl

/-- Where a row of the id does not decode, the lookup fails. -/
theorem lookup_of_undecodable {messageId : Int64}
    (undecodable : ¬ MessageDecodes tables channelId messageId) :
    lookup tables channelId messageId = .undecodable := by
  unfold lookup
  cases read : (selectMessages channelId [messageId] tables).mapM readMessage with
  | error error => rfl
  | ok rows =>
      refine absurd (forall_rowsDecode.mpr ?_ messageId (List.mem_singleton_self _)) undecodable
      intro log listed among
      have member := ((selectMessages_filters channelId tables).selectsBy [messageId] log).mpr
        ⟨listed, among⟩
      exact succeeds_mapM.mp ⟨rows, read⟩ log member

/-- A message found is a decoded row of the channel with the id asked for. -/
theorem lookup_found {messageId : Int64} {row : MessageRow}
    (found : lookup tables channelId messageId = .found row) :
    row.channelId = channelId ∧ row.messageId = messageId ∧
      ∃ log ∈ tables.chatLogs, readMessage log = .ok row := by
  by_cases decodes : MessageDecodes tables channelId messageId
  · rw [lookup_of_decodes decodes] at found
    cases stands : messageRow tables channelId messageId with
    | none =>
        rw [stands] at found
        cases found
    | some other =>
        rw [stands] at found
        cases found
        exact messageRow_channel stands
  · rw [lookup_of_undecodable decodes] at found
    cases found

/-- Looking up one row. -/
theorem getMessageRows_result (still : world.Still tables) (messageId : Int64) :
    ∃ outcome, (getMessageRows channelId [messageId] world).result = some outcome ∧
      match lookup tables channelId messageId with
      | .undecodable => ∃ error, outcome = .error (.sqlite error)
      | .missing => outcome = .error (.messageNotFound messageId)
      | .found row => outcome = .ok [row] := by
  rcases @getMessageRows_spec _ _ channelId [messageId] still with
    ⟨decode, _, result, rfl⟩ | ⟨undecodable, cause, result⟩
  · refine ⟨_, result, ?_⟩
    rw [lookup_of_decodes (decode messageId (List.mem_singleton_self _)), requestedRows,
      List.mapM_cons]
    cases messageRow tables channelId messageId with
    | none => rfl
    | some row => rfl
  · refine ⟨_, result, ?_⟩
    rw [List.forall_mem_singleton] at undecodable
    rw [lookup_of_undecodable undecodable]
    exact ⟨cause, rfl⟩

end Rows

end Arisa.Database
