import Arisa.Database.Members
import Arisa.Json
import Arisa.Std.Text

/-!
# Channels

`get_channel` of `channels.rs` and the texts it parses.
-/

namespace Arisa.Database

open Arisa.Proto Arisa.Std DbM

variable (serde : Serde)

def parseNameFromMetadata (raw : String) : Option String := do
  let metadata ← (serde.read raw).bind Value.asArray
  let found ← metadata.find? fun entry => (entry.get "type").bind Value.asI64 = some 3
  (found.get "content").bind Value.asStr

/-- One element of a list of ids. -/
def displayUserId (value : Value) : Option Int64 :=
  value.asI64 <|> value.asStr.bind fun text => parseI64 text.toList

def parseI64ArrayValue (value : Value) : Option (List Int64) :=
  let ids : Option (List Int64) :=
    match value with
    | .string text =>
        some ((split ',' text.toList).filterMap fun piece => parseI64 (trim piece))
    | .array values => some (values.filterMap displayUserId)
    | _ => none
  ids.filter fun ids => ¬ ids.isEmpty

def parseDisplayUserIds (raw : String) : Option (List Int64) := do
  let value ← serde.read raw
  let ids ← value.get "display_user_ids"
  parseI64ArrayValue ids

def parsePrivateName (raw : String) : Option String := do
  let value ← serde.read raw
  let name ← value.get "name"
  name.asStr

/-- The columns `get_channel` reads of a `chat_rooms` row. -/
structure RoomRow where
  channelType : String
  privateMeta : Option String
  vData : Option String
  metadata : Option String
deriving DecidableEq

def readRoom (row : ChatRoom) : Except SqliteError RoomRow := do
  let channelType ← row.type.toText 0
  let privateMeta ← row.privateMeta.toOption (SqlValue.toText 1)
  let vData ← row.v.toOption (SqlValue.toText 2)
  let metadata ← row.metadata.toOption (SqlValue.toText 3)
  return ⟨channelType, privateMeta, vData, metadata⟩

def selectRooms (channelId : Int64) (tables : Tables) : List ChatRoom :=
  tables.chatRooms.filter fun row => row.id.equals (.integer channelId)

def selectOpenLinks (channelId : Int64) (tables : Tables) : List OpenLink :=
  tables.openLinks.filter fun row => row.id.equals (tables.linkId channelId)

section Methods

variable (database : Database)

/-- The `name` of a channel: an open link, the metadata, or the display members. -/
def channelName (channelId : Int64) (room : RoomRow) : DbM (Option String) :=
  if room.channelType = "OM" then do
    let name ← atSite .link (queryRow (selectOpenLinks channelId) fun row => row.name.toText 0)
    return some name
  else
    match room.metadata.bind (parseNameFromMetadata serde) with
    | some name => return some name
    | none =>
        match room.vData.bind (parseDisplayUserIds serde) with
        | some userIds => do
            let members ← atSite .displayMembers
              (database.getUsersWithConnection channelId userIds)
            return some (", ".intercalate (members.map Member.nickname))
        | none => return none

def getChannel (channelId : Int64) : DbM Channel :=
  withConnection do
    let room ← atSite .channel (queryRow (selectRooms channelId) readRoom)
    let name ← database.channelName serde channelId room
    return ⟨channelId, room.channelType, name, room.privateMeta.bind (parsePrivateName serde)⟩

/-- `serde_json::from_str::<Vec<i64>>(raw).ok()`. -/
def parseI64Array (raw : String) : Option (List Int64) := do
  let value ← serde.read raw
  let values ← value.asArray
  values.mapM Value.asI64

def getChannelMembers (channelId : Int64) : DbM ChannelMembers :=
  withConnection do
    let raw ← queryRow (selectRooms channelId) fun row =>
      row.activeMemberIds.toOption (SqlValue.toText 0)
    return ⟨channelId, (raw.bind (parseI64Array serde)).getD []⟩

end Methods

end Arisa.Database
