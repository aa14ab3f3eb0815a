import Arisa.Crypto.Decryptor
import Arisa.Database.Operation
import Arisa.Proto
import Arisa.Std.Slices
import Mathlib.Logic.Function.Basic

/-!
# Members of a channel

`members.rs`. A `HashMap` of members is a function; the loops over chunks of 500
ids read all rows before they insert them, which no caller can tell apart.
-/

namespace Arisa

open Arisa.Crypto Arisa.Proto Arisa.Std

/-- `Database`, without its pool: the pool answers through the world. -/
structure Database where
  currentUserId : Int64
  decryptor : Decryptor

namespace Database

open DbM

def openChannelIdMask : Int64 := Int64.ofInt (2 ^ 54)

def isOpenChannel (channelId : Int64) : Bool :=
  channelId &&& openChannelIdMask ≠ 0

/-- `HashMap<i64, Member>`. -/
abbrev Members := Int64 → Option Member

def Members.insert (members : Members) (userId : Int64) (member : Member) : Members :=
  Function.update members userId (some member)

def Members.insertAll (members : Members) (found : List Member) : Members :=
  found.foldl (fun members member => members.insert member.id member) members

/-- The number of parameters in one query. -/
def chunkSize : Nat := 500

def profileType (value : Int32) : Int32 :=
  if value = 1 then ProfileType.default.toInt32
  else if value = 2 ∨ value = 4 then ProfileType.kakao.toInt32
  else if value = 16 then ProfileType.openProfile.toInt32
  else ProfileType.unknown.toInt32

def linkMemberType (value : Int32) : Int32 :=
  if value = 1 then LinkMemberType.host.toInt32
  else if value = 2 then LinkMemberType.member.toInt32
  else if value = 4 then LinkMemberType.moderator.toInt32
  else if value = 8 then LinkMemberType.bot.toInt32
  else LinkMemberType.unknown.toInt32

def readRegularUser (row : User) : Except SqliteError Member := do
  let id ← row.id.toI64 0
  let nickname ← row.nickname.toText 1
  let profileImageUrl ← row.originalProfileImageUrl.toOption (SqlValue.toText 2)
  return ⟨id, false, nickname, profileImageUrl, none⟩

def readCurrentOpenProfile (row : OpenProfile) : Except SqliteError Member := do
  let id ← row.userId.toI64 0
  let profileImageUrl ← row.oProfileImageUrl.toOption (SqlValue.toText 3)
  let profile ← row.profileType.toI32 1
  let linkMember ← row.linkMemberType.toI32 2
  let profileLinkId ← row.profileLinkId.toI64 4
  return ⟨id, true, "Arisa", profileImageUrl,
    some ⟨profileType profile, linkMemberType linkMember, profileLinkId⟩⟩

section Decrypting

variable (database : Database)

def readFriend (row : Friend) : Except SqliteError Member := do
  let nickname ← row.name.toText 1
  let profileImageUrl ← row.originalProfileImageUrl.toOption (SqlValue.toText 2)
  let enc ← row.enc.toU32 3
  let id ← row.id.toI64 0
  return ⟨id, false, database.decryptor.decrypt nickname enc,
    profileImageUrl.map fun url => database.decryptor.decrypt url enc, none⟩

def readOpenChannelUser (row : OpenChatMember) : Except SqliteError Member := do
  let nickname ← row.nickname.toText 3
  let profileImageUrl ← row.originalProfileImageUrl.toOption (SqlValue.toText 4)
  let enc ← row.enc.toU32 6
  let id ← row.userId.toI64 0
  let profile ← row.profileType.toI32 1
  let linkMember ← row.linkMemberType.toI32 2
  let profileLinkId ← row.profileLinkId.toI64 5
  return ⟨id, false, database.decryptor.decrypt nickname enc,
    profileImageUrl.map fun url => database.decryptor.decrypt url enc,
    some ⟨profileType profile, linkMemberType linkMember, profileLinkId⟩⟩

end Decrypting

section Queries

/-- `FROM user.user WHERE id IN (...)`. -/
def selectUsers (userIds : List Int64) (tables : Tables) : List User :=
  tables.users.filter fun row => row.id.isIn userIds

/-- `FROM db2.friends WHERE id IN (...)`. -/
def selectFriends (userIds : List Int64) (tables : Tables) : List Friend :=
  tables.friends.filter fun row => row.id.isIn userIds

/-- `FROM db2.open_chat_member WHERE link_id = (...) AND user_id IN (...)`. -/
def selectOpenChatMembers (channelId : Int64) (userIds : List Int64) (tables : Tables) :
    List OpenChatMember :=
  tables.openChatMembers.filter fun row =>
    row.linkId.equals (tables.linkId channelId) && row.userId.isIn userIds

/-- `FROM db2.open_profile WHERE link_id = (...)`. -/
def selectOpenProfiles (channelId : Int64) (tables : Tables) : List OpenProfile :=
  tables.openProfiles.filter fun row => row.linkId.equals (tables.linkId channelId)

end Queries

section Methods

variable (database : Database)

def getCurrentUser (channelId : Int64) : DbM Member :=
  if ¬ isOpenChannel channelId then
    return ⟨database.currentUserId, true, "Arisa", none, none⟩
  else
    queryRow (selectOpenProfiles channelId) readCurrentOpenProfile

def loadRegularUsers (userIds : List Int64) (members : Members) : DbM Members := do
  let users ← traverse .members (fun chunk => queryMap (selectUsers chunk) readRegularUser)
    (slices chunkSize userIds)
  let withUsers := members.insertAll users.flatten
  let missingIds := userIds.filter fun id => (withUsers id).isNone
  let friends ← traverse .friends
    (fun chunk => queryMap (selectFriends chunk) (readFriend database))
    (slices chunkSize missingIds)
  return withUsers.insertAll friends.flatten

def loadOpenChannelUsers (channelId : Int64) (userIds : List Int64) (members : Members) :
    DbM Members := do
  let users ← traverse .members
    (fun chunk => queryMap (selectOpenChatMembers channelId chunk) (readOpenChannelUser database))
    (slices chunkSize userIds)
  return members.insertAll users.flatten

/-- The current user, when it was asked for, under the id it was asked by. -/
def loadCurrentUser (channelId : Int64) (uniqueIds : List Int64) : DbM Members :=
  if database.currentUserId ∈ uniqueIds then do
    let member ← atSite .currentUser (database.getCurrentUser channelId)
    return Members.insert (fun _ => none) database.currentUserId member
  else
    return fun _ => none

/-- The members in the order of the ids asked for. -/
def collectMembers (members : Members) (userIds : List Int64) : Except DbError (List Member) :=
  userIds.mapM fun userId =>
    match members userId with
    | some member => .ok member
    | none => .error (.memberNotFound userId)

def getUsersWithConnection (channelId : Int64) (userIds : List Int64) : DbM (List Member) := do
  let uniqueIds ← hashSet userIds
  let current ← database.loadCurrentUser channelId uniqueIds
  let otherIds := uniqueIds.filter fun userId => userId ≠ database.currentUserId
  let members ←
    if isOpenChannel channelId then database.loadOpenChannelUsers channelId otherIds current
    else database.loadRegularUsers otherIds current
  ofExcept (collectMembers members userIds)

def getUsers (channelId : Int64) (userIds : List Int64) : DbM (List Member) :=
  if userIds.isEmpty then
    return []
  else
    withConnection (database.getUsersWithConnection channelId userIds)

def getUser (channelId userId : Int64) : DbM Member := do
  let members ← database.getUsers channelId [userId]
  match members with
  | member :: _ => return member
  | [] => throw (.memberNotFound userId)

end Methods

end Database
end Arisa
