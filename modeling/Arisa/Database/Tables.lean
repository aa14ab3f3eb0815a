import Arisa.Database.Sqlite

/-!
# Tables and their rows

The columns the server reads, by the names of the Android databases, and the row
types they are read into. A list of rows is in the order in which a scan visits
them.
-/

namespace Arisa.Database

/-- `db1.chat_logs`; `_id` is the integer primary key. -/
structure ChatLog where
  databaseId : Int64
  id : SqlValue
  type : SqlValue
  chatId : SqlValue
  userId : SqlValue
  message : SqlValue
  attachment : SqlValue
  v : SqlValue
  threadId : SqlValue
  scope : SqlValue
deriving DecidableEq

/-- `db1.chat_rooms`. -/
structure ChatRoom where
  id : SqlValue
  type : SqlValue
  privateMeta : SqlValue
  v : SqlValue
  metadata : SqlValue
  linkId : SqlValue
  activeMemberIds : SqlValue
deriving DecidableEq

/-- `db2.open_link`. -/
structure OpenLink where
  id : SqlValue
  name : SqlValue
deriving DecidableEq

/-- `db2.open_profile`. -/
structure OpenProfile where
  linkId : SqlValue
  userId : SqlValue
  profileType : SqlValue
  linkMemberType : SqlValue
  oProfileImageUrl : SqlValue
  profileLinkId : SqlValue
deriving DecidableEq

/-- `db2.open_chat_member`. -/
structure OpenChatMember where
  linkId : SqlValue
  userId : SqlValue
  profileType : SqlValue
  linkMemberType : SqlValue
  nickname : SqlValue
  originalProfileImageUrl : SqlValue
  profileLinkId : SqlValue
  enc : SqlValue
deriving DecidableEq

/-- `user.user`. -/
structure User where
  id : SqlValue
  nickname : SqlValue
  originalProfileImageUrl : SqlValue
deriving DecidableEq

/-- `db2.friends`. -/
structure Friend where
  id : SqlValue
  name : SqlValue
  originalProfileImageUrl : SqlValue
  enc : SqlValue
deriving DecidableEq

structure Tables where
  chatLogs : List ChatLog
  chatRooms : List ChatRoom
  openLinks : List OpenLink
  openProfiles : List OpenProfile
  openChatMembers : List OpenChatMember
  users : List User
  friends : List Friend
  primaryKey : (chatLogs.map ChatLog.databaseId).Nodup

/-- `record::MessageRow`. -/
structure MessageRow where
  databaseId : Int64
  messageId : Int64
  messageType : Int32
  channelId : Int64
  userId : Int64
  message : Option String
  attachment : Option String
  metadata : Option String
  threadId : Option Int64
  scope : Int32
deriving DecidableEq

/-- `DbError`. -/
inductive DbError where
  | pool (message : String)
  | sqlite (error : SqliteError)
  | memberNotFound (userId : Int64)
  | messageNotFound (messageId : Int64)
  | messageMapping (message : String)
deriving DecidableEq

/-- `(SELECT link_id FROM db1.chat_rooms WHERE id = ?1)`, NULL without a row. -/
def Tables.linkId (tables : Tables) (channelId : Int64) : SqlValue :=
  match tables.chatRooms.find? fun room => room.id.equals (.integer channelId) with
  | some room => room.linkId
  | none => .null

end Arisa.Database
