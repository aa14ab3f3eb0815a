import Arisa.Database.Members
import Arisa.Std.Except

/-!
# Message rows

`read_message`, `messages_after`, `latest_message_database_id` and the row lookup
of `messages.rs`. Mapping a row to an event is the business of `mapping.rs`.
-/

namespace Arisa.Database

open Arisa.Std DbM

def readMessage (row : ChatLog) : Except SqliteError MessageRow := do
  let messageId ← row.id.toI64 1
  let messageType ← row.type.toI32 2
  let channelId ← row.chatId.toI64 3
  let userId ← row.userId.toI64 4
  let message ← row.message.toOption (SqlValue.toText 5)
  let attachment ← row.attachment.toOption (SqlValue.toText 6)
  let metadata ← row.v.toOption (SqlValue.toText 7)
  let threadId ← row.threadId.toOption (SqlValue.toI64 8)
  let scope ← row.scope.toI32 9
  return ⟨row.databaseId, messageId, messageType, channelId, userId, message, attachment, metadata,
    threadId, scope⟩

/-- The columns by which a row is looked up are those it is read with. -/
theorem readMessage_keys {log : ChatLog} {row : MessageRow} (read : readMessage log = .ok row) :
    log.databaseId = row.databaseId ∧ log.id = .integer row.messageId ∧
      log.chatId = .integer row.channelId := by
  simp only [readMessage, bind_eq_ok, bind_pure_comp, map_eq_ok] at read
  obtain ⟨id, idRead, _, _, chatId, chatIdRead, _, _, _, _, _, _, _, _, _, _, _, _, rfl⟩ := read
  exact ⟨rfl, SqlValue.eq_integer_of_toI64 1 idRead, SqlValue.eq_integer_of_toI64 3 chatIdRead⟩

/-- The rows beyond a cursor, `ORDER BY _id ASC`. -/
def rowsAfter (databaseId : Int64) (tables : Tables) : List ChatLog :=
  (tables.chatLogs.filter fun row => databaseId < row.databaseId).mergeSort
    fun left right => left.databaseId ≤ right.databaseId

/-- `SELECT COALESCE(MAX(_id), 0)`. -/
def maxDatabaseId (tables : Tables) : Int64 :=
  match tables.chatLogs.map ChatLog.databaseId with
  | [] => 0
  | first :: rest => rest.foldl max first

/-- `WHERE chat_id = ? AND id IN (...)`. -/
def selectMessages (channelId : Int64) (messageIds : List Int64) (tables : Tables) :
    List ChatLog :=
  tables.chatLogs.filter fun row =>
    row.chatId.equals (.integer channelId) && row.id.isIn messageIds

/-- The `HashMap` of rows by message id; a later row replaces an earlier one. -/
def indexRows (rows : List MessageRow) : Int64 → Option MessageRow :=
  rows.foldl (fun messages row => Function.update messages row.messageId (some row))
    fun _ => none

def latestMessageDatabaseId : DbM Int64 :=
  withConnection (queryRow (fun tables => [maxDatabaseId tables]) .ok)

def messagesAfter (databaseId : Int64) (limit : Nat) : DbM (List MessageRow) :=
  withConnection (queryMap (fun tables => (rowsAfter databaseId tables).take limit) readMessage)

/-- The chunked query for the distinct ids, then the rows in the order asked for. -/
def loadMessageRows (channelId : Int64) (messageIds uniqueIds : List Int64) :
    DbM (List MessageRow) := do
  let rows ← traverse .rows (fun chunk => queryMap (selectMessages channelId chunk) readMessage)
    (slices chunkSize uniqueIds)
  let messages := indexRows rows.flatten
  ofExcept (messageIds.mapM fun messageId =>
    match messages messageId with
    | some message => .ok message
    | none => .error (.messageNotFound messageId))

def getMessageRows (channelId : Int64) (messageIds : List Int64) : DbM (List MessageRow) :=
  if messageIds.isEmpty then
    return []
  else
    withConnection do
      let uniqueIds ← hashSet messageIds
      loadMessageRows channelId messageIds uniqueIds

end Arisa.Database
