import Arisa.Database.Channels
import Arisa.Database.Feed
import Arisa.Database.Messages

/-!
# Mapping a row to an event

`mapping.rs`, with `get_message` and `get_messages`, which call each other. The
mutual recursion is bounded by `fuel`: `mapMessage` has no result when it was too
small.
-/

namespace Arisa.Database

open Arisa.Crypto Arisa.Proto DbM

variable (serde : Serde) (database : Database)

def metadataU32 (metadata : Value) (field : String) : Option UInt32 := do
  let value ← metadata.get field
  (value.asU64.bind fun value =>
      if value.toNat < 2 ^ 32 then some (UInt32.ofNat value.toNat) else none) <|>
    value.asStr.bind fun text => Std.parseU32 text.toList

/-- The previous text of a row rewritten in place. -/
def hiddenMessageFromMetadata (row : MessageRow) : Option String :=
  if row.messageType ≠ 0 then
    none
  else do
    let raw ← row.metadata
    let metadata ← serde.read raw
    let previous ← metadata.get "previous_message"
    let ciphertext ← previous.asStr
    let enc ← metadataU32 metadata "previous_enc"
    return database.decryptor.decryptForUser ciphertext enc row.userId

/-- One entry of `modifyLog`. -/
def mapRevision (userId : Int64) (entry : Value) : Option MessageRevision := do
  let revision ← (entry.get "revision").bind Value.asI64
  let ciphertext ← (entry.get "message").bind Value.asStr
  let enc ← metadataU32 entry "enc"
  return ⟨revision, database.decryptor.decryptForUser ciphertext enc userId⟩

def modifyLogEntries (metadata : Option Value) : Option Value := do
  let metadata ← metadata
  let modifyLog ← metadata.get "modifyLog"
  match modifyLog with
  | .string text => serde.read text
  | .array _ => return modifyLog
  | _ => none

def mapModifyLog (metadata : Option Value) (userId : Int64) : List MessageRevision :=
  match modifyLogEntries serde metadata with
  | none => []
  | some entries =>
      ((entries.asArray.getD []).filterMap (mapRevision database userId)).mergeSort
        fun left right => left.revision ≤ right.revision

def mapScope (scope : Int32) : Int32 :=
  if scope = 1 then MessageScope.channel.toInt32
  else if scope = 2 then MessageScope.thread.toInt32
  else if scope = 3 then MessageScope.all.toInt32
  else MessageScope.unknown.toInt32

/-- The encryption number of the metadata, `as u32`. -/
def encOf (metadata : Option Value) : UInt32 :=
  (((metadata.bind fun value => value.get "enc").bind Value.asU64).getD 0).toUInt32

/-- The decrypted text of a row. -/
def messageText (row : MessageRow) : String :=
  match row.message with
  | some text =>
      database.decryptor.decryptForUser text (encOf (row.metadata.bind serde.read)) row.userId
  | none => ""

def attachmentJson (row : MessageRow) : String :=
  let attachment :=
    match row.attachment with
    | some text =>
        database.decryptor.decryptForUser text (encOf (row.metadata.bind serde.read)) row.userId
    | none => ""
  serde.toString ((serde.read attachment).getD (.object []))

def assembleMessage (row : MessageRow) (channel : Channel) (author : Option Member) :
    Except DbError Event :=
  if row.messageType = 0 then do
    let payload ← (parse serde (messageText serde database row) author row.messageId).mapError
      .messageMapping
    return ⟨some (.feed ⟨some channel, some payload, author⟩)⟩
  else
    .ok ⟨some (.message {
      messageId := row.messageId
      threadId := row.threadId
      scope := mapScope row.scope
      messageType := row.messageType
      channel := some channel
      author
      message := messageText serde database row
      attachmentJson := attachmentJson serde database row
      modifyLog := mapModifyLog serde database (row.metadata.bind serde.read) row.userId })⟩

/-- Replace the text of the first entry for `messageId`; `none` when there is none. -/
def replaceMessage (messageId : Int64) (text : String) :
    List MessageEvent → Option (List MessageEvent)
  | [] => none
  | message :: rest =>
      if message.messageId = messageId then some ({ message with message := text } :: rest)
      else (replaceMessage messageId text rest).map (message :: ·)

/-- The entry a hidden feed gets for the text kept in its own metadata. -/
def rewrittenMessage (row : MessageRow) (channel : Channel) (author : Option Member)
    (messageId : Int64) (text : String) : MessageEvent where
  messageId
  threadId := row.threadId
  scope := mapScope row.scope
  messageType := row.messageType
  channel := some channel
  author
  message := text
  attachmentJson := "\x7b\x7d"
  modifyLog := []

/-- The previous messages of a hidden feed, given the snapshots found. -/
def mergeHidden (row : MessageRow) (channel : Channel) (author : Option Member)
    (messageIds : List Int64) (snapshots : List MessageEvent) : List MessageEvent :=
  match hiddenMessageFromMetadata serde database row with
  | none => snapshots
  | some text =>
      let target :=
        (messageIds.find? fun messageId => messageId = row.messageId) <|> messageIds.head?
      match target with
      | none => snapshots
      | some messageId =>
          match replaceMessage messageId text snapshots with
          | some replaced => replaced
          | none => snapshots ++ [rewrittenMessage row channel author messageId text]

/-- What a snapshot keeps of a looked-up event. -/
def snapshotOf (messageId : Int64) (event : Event) : Option MessageEvent :=
  match event.value with
  | some (.message message) => some message
  | some (.feed feed) =>
      feed.feed.bind fun payload =>
        match payload.value with
        | some (.messageHidden hidden) =>
            hidden.previousMessages.find? fun message => message.messageId = messageId
        | _ => none
  | none => none

section Recursion

variable (mapMessage : MessageRow → DbM Event)

def getMessages (channelId : Int64) (messageIds : List Int64) : DbM (List Event) := do
  let rows ← getMessageRows channelId messageIds
  traverse .message mapMessage rows

def getMessage (channelId messageId : Int64) : DbM Event := do
  let events ← getMessages mapMessage channelId [messageId]
  match events with
  | event :: _ => return event
  | [] => throw (.messageNotFound messageId)

def getMessageSnapshot (channelId messageId : Int64) : DbM (Option MessageEvent) := do
  match ← attempt (getMessage mapMessage channelId messageId) with
  | .ok event => return snapshotOf messageId event
  | .error (.messageNotFound _) => return none
  | .error error => throw error

/-- The snapshots a payload asks for, in its own order, with the payload completed. -/
def enrichFeed (row : MessageRow) (value : FeedValue) (channel : Channel)
    (author : Option Member) : DbM FeedValue :=
  match value with
  | .messageDeleted deleted =>
      if deleted.messageId = row.messageId then
        return .messageDeleted { deleted with previousMessage := none }
      else do
        let previous ← atSite (.snapshot 0)
          (getMessageSnapshot mapMessage row.channelId deleted.messageId)
        return .messageDeleted { deleted with previousMessage := previous }
  | .messageChanged changed =>
      if changed.messageId = row.messageId then
        return .messageChanged { changed with message := none }
      else do
        let message ← atSite (.snapshot 0)
          (getMessageSnapshot mapMessage row.channelId changed.messageId)
        return .messageChanged { changed with message := message }
  | .messageHidden hidden => do
      let snapshots ← traverse .snapshot (getMessageSnapshot mapMessage row.channelId)
        (hidden.messageIds.filter fun messageId => messageId ≠ row.messageId)
      return .messageHidden { hidden with
        previousMessages := mergeHidden serde database row channel author hidden.messageIds
          (snapshots.filterMap id) }
  | other => return other

/-- `enrich_feed` on the value inside an event. -/
def enrichEvent (row : MessageRow) (channel : Channel) (author : Option Member) (event : Event) :
    DbM Event :=
  match event.value with
  | some (.feed ⟨feedChannel, some ⟨some value⟩, feedAuthor⟩) => do
      let enriched ← enrichFeed serde database mapMessage row value channel author
      return ⟨some (.feed ⟨feedChannel, some ⟨some enriched⟩, feedAuthor⟩)⟩
  | _ => return event

def mapMessageBody (row : MessageRow) : DbM Event := do
  let author ← attempt (atSite .author (database.getUser row.channelId row.userId))
  let channel ← atSite .channel (database.getChannel serde row.channelId)
  let event ← ofExcept (assembleMessage serde database row channel author.toOption)
  if row.messageType ≠ 0 then return event
  else enrichEvent serde database mapMessage row channel author.toOption event

end Recursion

def mapMessage : Nat → MessageRow → DbM Event
  | 0, _ => outOfFuel
  | fuel + 1, row => mapMessageBody serde database (mapMessage fuel) row

end Arisa.Database
