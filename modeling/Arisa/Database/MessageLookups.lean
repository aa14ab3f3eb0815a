import Arisa.Database.Chunked
import Arisa.Database.Messages

/-!
# Lookups of message rows

What `get_message_rows` returns in a world that stands still: for each id asked
for the row that stands for the message, or the first id without one.
-/

namespace Arisa.Database

open Arisa.Std DbM

section Rows

variable {tables : Tables} {world : World} {channelId : Int64} {messageIds : List Int64}

/-- The rows of a channel. -/
def channelRows (tables : Tables) (channelId : Int64) : List ChatLog :=
  tables.chatLogs.filter fun row => row.chatId.equals (.integer channelId)

/-- The query of messages selects by id within the channel. -/
theorem selectMessages_filters (channelId : Int64) (tables : Tables) :
    FiltersBy (selectMessages channelId) tables (channelRows tables channelId) ChatLog.id := by
  intro ids
  rw [selectMessages, channelRows, List.filter_filter]
  exact List.filter_congr fun row _ => Bool.and_comm ..

/-- Reading a row keeps its id. -/
theorem readMessage_id {log : ChatLog} {row : MessageRow} (read : readMessage log = .ok row) :
    log.id.toI64 0 = .ok row.messageId := by
  rw [(readMessage_keys read).2.1]
  rfl

/-- Of two rows with one id the later is kept. -/
theorem indexRows_eq_latest (rows : List MessageRow) (messageId : Int64) :
    indexRows rows messageId = latest MessageRow.messageId rows messageId := by
  induction rows using List.reverseRecOn with
  | nil => rfl
  | append_singleton rows last ih =>
      rw [latest_concat, indexRows, List.foldl_append]
      change Function.update (indexRows rows) last.messageId (some last) messageId = _
      by_cases same : last.messageId = messageId
      · rw [if_pos same, same, Function.update_self]
      · rw [if_neg same, Function.update_of_ne (Ne.symm same), ih]

/-- Every row of the channel with the id decodes. -/
def MessageDecodes (tables : Tables) (channelId messageId : Int64) : Prop :=
  RowsDecode ChatLog.id readMessage (channelRows tables channelId) messageId

/-- The row that stands for a message of the channel. -/
def messageRow (tables : Tables) (channelId messageId : Int64) : Option MessageRow :=
  stored readMessage MessageRow.messageId (channelRows tables channelId) messageId

/-- The channel has a row with the id. -/
def HasMessage (tables : Tables) (channelId messageId : Int64) : Prop :=
  ∃ log ∈ tables.chatLogs, log.chatId.equals (.integer channelId) = true ∧
    log.id.equals (.integer messageId) = true

/-- If its rows decode, a message is found exactly if it is stored. -/
theorem messageRow_isSome {messageId : Int64}
    (decodes : MessageDecodes tables channelId messageId) :
    (messageRow tables channelId messageId).isSome = true ↔
      HasMessage tables channelId messageId := by
  rw [messageRow, stored_isSome (fun _ _ => readMessage_id) decodes, HasMessage]
  simp only [channelRows, List.mem_filter, and_assoc]

/-- A row that stands for a message is a row of its channel. -/
theorem messageRow_channel {messageId : Int64} {row : MessageRow}
    (found : messageRow tables channelId messageId = some row) :
    row.channelId = channelId ∧ row.messageId = messageId ∧
      ∃ log ∈ tables.chatLogs, readMessage log = .ok row := by
  obtain ⟨log, inside, keyed, read⟩ := row_of_stored (fun _ _ => readMessage_id) found
  obtain ⟨listed, channel⟩ := List.mem_filter.mp inside
  obtain ⟨-, id, chatId⟩ := readMessage_keys read
  rw [chatId, SqlValue.integer_equals_integer] at channel
  rw [id, SqlValue.integer_equals_integer] at keyed
  exact ⟨channel, keyed, log, listed, read⟩

/-- The rows in the order asked for, or the first id without one. -/
def requestedRows (tables : Tables) (channelId : Int64) (messageIds : List Int64) :
    Except DbError (List MessageRow) :=
  messageIds.mapM fun messageId =>
    match messageRow tables channelId messageId with
    | some row => .ok row
    | none => .error (.messageNotFound messageId)

/-- In a world that stands still the rows are those requested, provided that they decode. -/
theorem getMessageRows_spec (still : world.Still tables) :
    Reads (∀ messageId ∈ messageIds, MessageDecodes tables channelId messageId)
      (· = requestedRows tables channelId messageIds)
      (getMessageRows channelId messageIds world).result := by
  by_cases empty : messageIds = []
  · subst empty
    exact reads_of_eq nofun rfl rfl
  · rw [getMessageRows, if_neg (by simpa using empty), still.withConnection_result,
      bind_result_of_ok (hashSet_result messageIds)]
    have queried := chunked_spec .rows still (selectMessages_filters channelId tables)
      (fun _ _ => readMessage_id) ((world []).order messageIds)
    simp only [mem_order] at queried
    refine queried.andThen fun _ rows held => ⟨_, ofExcept_result _, ?_⟩
    apply mapM_congr
    intro messageId asked
    rw [indexRows_eq_latest, held messageId, if_pos asked]
    rfl

/-- There is one row for each id, in the order of the ids. -/
theorem requestedRows_eq_ok {rows : List MessageRow} :
    requestedRows tables channelId messageIds = .ok rows ↔
      List.Forall₂ (fun messageId row => messageRow tables channelId messageId = some row)
        messageIds rows := by
  rw [requestedRows, mapM_eq_ok_iff]
  apply iff_of_eq
  congr
  funext messageId row
  cases messageRow tables channelId messageId with
  | none => simp
  | some other => simp

end Rows

end Arisa.Database
