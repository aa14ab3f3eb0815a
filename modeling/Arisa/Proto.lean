/-!
# Messages of `arisa.proto`

The generated message types, field by field. Enumeration fields are `i32`, as
prost generates them; the enumerations name the numbers the server writes.
-/

namespace Arisa.Proto

inductive MediaMode where
  | single
  | multiple
deriving DecidableEq

/-- `MediaMode::try_from(i32)`. -/
def MediaMode.tryFrom (value : Int32) : Option MediaMode :=
  if value = 0 then some .single else if value = 1 then some .multiple else none

/-- The number of a mode on the wire. -/
def MediaMode.number : MediaMode → Int32
  | .single => 0
  | .multiple => 1

/-- The number of a mode is read as the mode. -/
@[simp] theorem MediaMode.tryFrom_number (mode : MediaMode) :
    MediaMode.tryFrom mode.number = some mode := by
  cases mode <;> rfl

structure SendMediaByChunkMetadata where
  channelId : Int64
  fileCount : UInt32
  mode : Int32
deriving DecidableEq

structure MediaFileMetadata where
  fileName : String
  fileSize : UInt64
  contentType : String
deriving DecidableEq

/-- The `payload` oneof of a chunked upload request. -/
inductive Payload where
  | metadata (metadata : SendMediaByChunkMetadata)
  | fileMetadata (metadata : MediaFileMetadata)
  | chunk (bytes : List UInt8)
deriving DecidableEq

structure SendMediaByChunkRequest where
  payload : Option Payload
deriving DecidableEq

structure MediaFile where
  name : Option String
  mime : String
  data : List UInt8
deriving DecidableEq

structure SendMediaRequest where
  channelId : Int64
  mode : Int32
  files : List MediaFile
deriving DecidableEq

structure Channel where
  id : Int64
  channelType : String
  name : Option String
  privateName : Option String
deriving DecidableEq

structure ChannelMembers where
  channelId : Int64
  activeMemberIds : List Int64
deriving DecidableEq

inductive ProfileType where
  | unknown
  | default
  | kakao
  | openProfile
deriving DecidableEq

/-- `profile_type as i32`. -/
def ProfileType.toInt32 : ProfileType → Int32
  | .unknown => 0
  | .default => 1
  | .kakao => 2
  | .openProfile => 3

inductive LinkMemberType where
  | unknown
  | host
  | member
  | moderator
  | bot
deriving DecidableEq

/-- `link_member_type as i32`. -/
def LinkMemberType.toInt32 : LinkMemberType → Int32
  | .unknown => 0
  | .host => 1
  | .member => 2
  | .moderator => 3
  | .bot => 4

structure OpenChannelMemberExtra where
  profileType : Int32
  linkMemberType : Int32
  profileLinkId : Int64
deriving DecidableEq

structure Member where
  id : Int64
  isMine : Bool
  nickname : String
  profileImageUrl : Option String
  openChannel : Option OpenChannelMemberExtra
deriving DecidableEq

inductive MessageScope where
  | unknown
  | channel
  | thread
  | all
deriving DecidableEq

/-- `scope as i32`. -/
def MessageScope.toInt32 : MessageScope → Int32
  | .unknown => 0
  | .channel => 1
  | .thread => 2
  | .all => 3

structure MessageRevision where
  revision : Int64
  message : String
deriving DecidableEq

structure MessageEvent where
  messageId : Int64
  threadId : Option Int64
  scope : Int32
  messageType : Int32
  channel : Option Channel
  author : Option Member
  message : String
  attachmentJson : String
  modifyLog : List MessageRevision
deriving DecidableEq

structure FeedUser where
  id : Int64
  nickname : String
deriving DecidableEq

structure FeedUserJoined where
  joinedUsers : List FeedUser
deriving DecidableEq

structure FeedUserLeft where
  leftMember : Option FeedUser
deriving DecidableEq

structure FeedUserKicked where
  kickedUser : Option FeedUser
  kickedBy : Option Member
deriving DecidableEq

structure FeedMessageDeleted where
  messageId : Int64
  previousMessage : Option MessageEvent
deriving DecidableEq

structure FeedMessageChanged where
  messageId : Int64
  targetRevision : Int64
  message : Option MessageEvent
deriving DecidableEq

structure FeedMessageHidden where
  messageIds : List Int64
  previousMessages : List MessageEvent
deriving DecidableEq

structure FeedHostChanged where
  previousHost : Option FeedUser
  newHost : Option FeedUser
deriving DecidableEq

structure FeedModeratorAdded where
  member : Option FeedUser
deriving DecidableEq

structure FeedModeratorRemoved where
  member : Option FeedUser
deriving DecidableEq

structure FeedManagerSpeakerMode where
  enabled : Bool
deriving DecidableEq

structure FeedOpenLinkDeleted where
deriving DecidableEq

structure FeedUnknown where
  rawJson : String
deriving DecidableEq

/-- The `value` oneof of a feed payload. -/
inductive FeedValue where
  | userJoined (feed : FeedUserJoined)
  | userLeft (feed : FeedUserLeft)
  | userKicked (feed : FeedUserKicked)
  | messageDeleted (feed : FeedMessageDeleted)
  | messageChanged (feed : FeedMessageChanged)
  | messageHidden (feed : FeedMessageHidden)
  | hostChanged (feed : FeedHostChanged)
  | moderatorAdded (feed : FeedModeratorAdded)
  | moderatorRemoved (feed : FeedModeratorRemoved)
  | managerSpeakerMode (feed : FeedManagerSpeakerMode)
  | openLinkDeleted (feed : FeedOpenLinkDeleted)
  | unknown (feed : FeedUnknown)
deriving DecidableEq

structure FeedPayload where
  value : Option FeedValue
deriving DecidableEq

structure FeedEvent where
  channel : Option Channel
  feed : Option FeedPayload
  author : Option Member
deriving DecidableEq

/-- The `value` oneof of an event. -/
inductive EventValue where
  | message (message : MessageEvent)
  | feed (feed : FeedEvent)
deriving DecidableEq

structure Event where
  value : Option EventValue
deriving DecidableEq

structure RawQueryRequest where
  sql : String
  limit : Option UInt32
  paramsJson : String
deriving DecidableEq

structure RawQueryResponse where
  rowsJson : List String
deriving DecidableEq

structure Credential where
  accessToken : String
  refreshToken : String
  deviceUuid : String
deriving DecidableEq

structure ReplyRequest where
  channelId : Int64
  message : String
  threadId : Option Int64

structure MarkReadRequest where
  channelId : Int64

structure EnterChannelRequest where
  channelId : Int64

structure GetUserRequest where
  channelId : Int64
  userId : Int64

structure GetUsersRequest where
  channelId : Int64
  userIds : List Int64

structure GetUsersResponse where
  members : List Member

structure GetChannelRequest where
  channelId : Int64

structure GetMessageRequest where
  channelId : Int64
  messageId : Int64

structure GetMessagesRequest where
  channelId : Int64
  messageIds : List Int64

structure GetMessagesResponse where
  events : List Event

structure GetChannelMembersRequest where
  channelId : Int64

structure DecryptRequest where
  ciphertext : String
  enc : UInt32
  userId : Option Int64

structure DecryptResponse where
  plaintext : String

end Arisa.Proto
