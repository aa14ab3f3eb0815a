import Arisa.Database.Channels
import Arisa.Database.MemberLookups

/-!
# When lookups succeed

Conditions on the tables under which the member and channel lookups return a
value in a world that stands still. Every row a query reads has to decode, and
every id asked for has to be found.
-/

namespace Arisa.Database

open Arisa.Crypto Arisa.Proto Arisa.Std DbM

/-! ## Members -/

section Conditions

variable (database : Database) (tables : Tables) (channelId : Int64)

/-- Every `open_chat_member` row read for the ids decodes, and every id has one. -/
structure OpenUsersAvailable (userIds : List Int64) : Prop where
  decodable : ∀ row ∈ openMemberRows tables channelId, row.userId.isIn userIds = true →
    Succeeds (readOpenChannelUser database row)
  found : ∀ userId ∈ userIds, ∃ row ∈ openMemberRows tables channelId,
    row.userId.equals (.integer userId) = true

/-- Every `user.user` row read for the ids decodes, as does every `friends` row
read for those without one, and every id has a row in one of the two. -/
structure RegularUsersAvailable (userIds : List Int64) : Prop where
  users : ∀ row ∈ tables.users, row.id.isIn userIds = true → Succeeds (readRegularUser row)
  friends : ∀ row ∈ tables.friends,
    row.id.isIn (userIds.filter fun userId => ¬ HasUser tables userId) = true →
    Succeeds (readFriend database row)
  found : ∀ userId ∈ userIds, HasUser tables userId ∨
    ∃ row ∈ tables.friends, row.id.equals (.integer userId) = true

/-- Every member asked for can be looked up. -/
def UsersAvailable (userIds : List Int64) : Prop :=
  let others := userIds.filter fun userId => userId ≠ database.currentUserId
  if isOpenChannel channelId = true then
    (database.currentUserId ∈ userIds → OwnProfileAvailable tables channelId) ∧
      OpenUsersAvailable database tables channelId others
  else
    RegularUsersAvailable database tables others

end Conditions

section Members

variable {database : Database} {tables : Tables} {channelId : Int64} {userIds : List Int64}

/-- Member by member: those of an open channel can be loaded if each one is stored and all of his
rows decode. -/
theorem openUsersAvailable_iff :
    OpenUsersAvailable database tables channelId userIds ↔
      ∀ userId ∈ userIds,
        RowsDecode OpenChatMember.userId (readOpenChannelUser database)
            (openMemberRows tables channelId) userId ∧
          ∃ row ∈ openMemberRows tables channelId, row.userId.equals (.integer userId) = true := by
  rw [forall₂_and, forall_rowsDecode]
  exact ⟨fun available => ⟨available.decodable, available.found⟩, fun both => ⟨both.1, both.2⟩⟩

/-- The same of regular users, who may be stored in either table. -/
theorem regularUsersAvailable_iff :
    RegularUsersAvailable database tables userIds ↔
      ∀ userId ∈ userIds, RegularDecodes database tables userId ∧
        (HasUser tables userId ∨
          ∃ row ∈ tables.friends, row.id.equals (.integer userId) = true) := by
  rw [forall₂_and, ← forall_regularDecodes, forall_rowsDecode, forall_rowsDecode]
  exact ⟨fun available => ⟨⟨available.users, available.friends⟩, available.found⟩,
    fun all => ⟨all.1.1, all.1.2, all.2⟩⟩

/-- The current user is available when their profile is, where one is read. -/
theorem available_current :
    UserDecodes database tables channelId database.currentUserId ∧
        (memberOf database tables channelId database.currentUserId).isSome = true ↔
      (isOpenChannel channelId = true → OwnProfileAvailable tables channelId) := by
  rw [UserDecodes, if_pos rfl, memberOf, if_pos rfl, currentMember]
  refine ⟨And.left, fun decodes => ⟨decodes, ?_⟩⟩
  split
  · rename_i openChannel
    obtain ⟨member, read⟩ := succeeds_firstRow.mpr (decodes openChannel)
    rw [read]
    rfl
  · rfl

/-- For one member of an open channel this is that the lookup decodes and finds him. -/
theorem available_open (openChannel : isOpenChannel channelId = true) {userId : Int64}
    (other : userId ≠ database.currentUserId) :
    UserDecodes database tables channelId userId ∧
        (memberOf database tables channelId userId).isSome = true ↔
      RowsDecode OpenChatMember.userId (readOpenChannelUser database)
          (openMemberRows tables channelId) userId ∧
        ∃ row ∈ openMemberRows tables channelId, row.userId.equals (.integer userId) = true := by
  rw [UserDecodes, if_neg other, if_pos openChannel, memberOf, if_neg other, otherMember,
    if_pos openChannel]
  exact and_congr_right fun decodes => stored_isSome (fun _ _ => readOpenChannelUser_id) decodes

/-- For one regular user this is the same. -/
theorem available_regular (regular : ¬ isOpenChannel channelId = true) {userId : Int64}
    (other : userId ≠ database.currentUserId) :
    UserDecodes database tables channelId userId ∧
        (memberOf database tables channelId userId).isSome = true ↔
      RegularDecodes database tables userId ∧
        (HasUser tables userId ∨
          ∃ row ∈ tables.friends, row.id.equals (.integer userId) = true) := by
  rw [UserDecodes, if_neg other, if_neg regular, memberOf, if_neg other, otherMember,
    if_neg regular, Option.isSome_or, Bool.or_eq_true]
  refine and_congr_right fun decodes => ?_
  rw [stored_isSome (fun _ _ => readRegularUser_id) decodes.1, ← HasUser]
  refine or_congr_right' fun absent => ?_
  exact stored_isSome (fun _ _ => readFriend_id) (decodes.2 absent)

/-- All members asked for are available exactly when each of them is. -/
theorem usersAvailable_iff :
    UsersAvailable database tables channelId userIds ↔
      ∀ userId ∈ userIds, UserDecodes database tables channelId userId ∧
        (memberOf database tables channelId userId).isSome = true := by
  have others (userId : Int64) :
      userId ∈ userIds.filter (fun userId => userId ≠ database.currentUserId) ↔
        userId ∈ userIds ∧ userId ≠ database.currentUserId := by
    simp only [List.mem_filter, decide_eq_true_iff]
  rw [@forall_mem_apart _ database.currentUserId, available_current, UsersAvailable]
  simp only [← others]
  split
  · rename_i openChannel
    rw [openUsersAvailable_iff]
    refine and_congr (by simp [openChannel]) (forall₂_congr fun userId member => ?_)
    exact (available_open openChannel ((others userId).mp member).2).symm
  · rename_i regular
    rw [regularUsersAvailable_iff]
    have own : database.currentUserId ∈ userIds → isOpenChannel channelId = true →
        OwnProfileAvailable tables channelId := fun _ openChannel => absurd openChannel regular
    rw [and_iff_right own]
    exact forall₂_congr fun userId member =>
      (available_regular regular ((others userId).mp member).2).symm

/-- Collecting succeeds exactly if nobody is missing. -/
theorem succeeds_collectMembers {members : Members} {userIds : List Int64} :
    Succeeds (collectMembers members userIds) ↔
      ∀ userId ∈ userIds, (members userId).isSome = true := by
  rw [collectMembers, succeeds_mapM]
  apply forall₂_congr
  intro userId _
  cases members userId with
  | none => simp
  | some member => simp

/-- A batch of members is returned exactly when every member asked for is available. -/
theorem getUsersWithConnection_result (database : Database) {tables : Tables} {world : World}
    (channelId : Int64) (still : world.Still tables) (userIds : List Int64) :
    ∃ outcome, (database.getUsersWithConnection channelId userIds world).result = some outcome ∧
      (Succeeds outcome ↔ UsersAvailable database tables channelId userIds) := by
  rcases @getUsersWithConnection_spec database _ _ channelId userIds still with
    ⟨decode, _, result, rfl⟩ | ⟨undecodable, cause, result⟩
  · refine ⟨_, result, ?_⟩
    rw [succeeds_collectMembers, usersAvailable_iff]
    exact forall₂_congr fun userId asked => (and_iff_right (decode userId asked)).symm
  · refine ⟨_, result, ?_⟩
    rw [usersAvailable_iff]
    simp only [not_succeeds_error, false_iff]
    exact fun all => undecodable fun userId asked => (all userId asked).1

end Members

/-! ## Channels -/

section Channels

variable (serde : Serde) (database : Database) (tables : Tables) (channelId : Int64)

/-- The name of a channel can be looked up: an open link has a row with a name,
and the display members, where they are needed, are available. -/
def NameAvailable (room : RoomRow) : Prop :=
  if room.channelType = "OM" then
    ∃ link, (selectOpenLinks channelId tables).head? = some link ∧ Succeeds (link.name.toText 0)
  else
    match room.metadata.bind (parseNameFromMetadata serde) with
    | some _ => True
    | none =>
        match room.vData.bind (parseDisplayUserIds serde) with
        | some userIds => UsersAvailable database tables channelId userIds
        | none => True

/-- The first `chat_rooms` row of the channel decodes to `room`. -/
def HasRoom (room : RoomRow) : Prop :=
  ∃ row, (selectRooms channelId tables).head? = some row ∧ readRoom row = .ok room

/-- The channel has a decodable row, and its name can be looked up. -/
def ChannelAvailable : Prop :=
  ∃ room, HasRoom tables channelId room ∧ NameAvailable serde database tables channelId room

variable {serde database tables channelId} {world : World}

/-- The room that is read is the first row of the channel. -/
theorem firstRow_eq_ok_iff {room : RoomRow} :
    firstRow (selectRooms channelId tables) readRoom = .ok room ↔
      HasRoom tables channelId room := by
  unfold HasRoom
  cases selectRooms channelId tables with
  | nil => simp [firstRow]
  | cons row rest => simp [firstRow, mapError_eq_ok]

/-- In a world that stands still the name is found exactly if it is available. -/
theorem channelName_result (still : world.Still tables) (room : RoomRow) :
    ∃ outcome, (database.channelName serde channelId room world).result = some outcome ∧
      (Succeeds outcome ↔ NameAvailable serde database tables channelId room) := by
  unfold channelName NameAvailable
  by_cases openLink : room.channelType = "OM"
  · simp only [openLink, if_true, ← succeeds_firstRow]
    have queried := (still.below .link).queryRow_result (selectOpenLinks channelId)
      fun row => row.name.toText 0
    cases read : firstRow (selectOpenLinks channelId tables) fun row => row.name.toText 0 with
    | error error =>
        rw [read] at queried
        exact ⟨_, bind_result_of_error queried, by simp⟩
    | ok name =>
        rw [read] at queried
        exact ⟨_, bind_result_of_ok queried, by simp⟩
  · simp only [openLink, if_false]
    cases room.metadata.bind (parseNameFromMetadata serde) with
    | some name => exact ⟨_, rfl, by simp⟩
    | none =>
        cases room.vData.bind (parseDisplayUserIds serde) with
        | none => exact ⟨_, rfl, by simp⟩
        | some userIds =>
            obtain ⟨outcome, result, available⟩ := getUsersWithConnection_result database
              channelId (still.below .displayMembers) userIds
            simp only [← available]
            cases outcome with
            | error error => exact ⟨_, bind_result_of_error result, by simp⟩
            | ok members => exact ⟨_, bind_result_of_ok result, by simp⟩

/-- A channel is returned exactly when it is available. -/
theorem getChannel_result (still : world.Still tables) :
    ∃ outcome, (database.getChannel serde channelId world).result = some outcome ∧
      (Succeeds outcome ↔ ChannelAvailable serde database tables channelId) := by
  unfold getChannel ChannelAvailable
  rw [still.withConnection_result]
  have queried : (atSite .channel (queryRow (selectRooms channelId) readRoom) world).result =
      some (firstRow (selectRooms channelId tables) readRoom) :=
    (still.below .channel).queryRow_result (selectRooms channelId) readRoom
  simp only [← firstRow_eq_ok_iff]
  cases read : firstRow (selectRooms channelId tables) readRoom with
  | error error =>
      rw [read] at queried
      exact ⟨_, bind_result_of_error queried, by simp⟩
  | ok room =>
      rw [read] at queried
      obtain ⟨outcome, result, available⟩ := @channelName_result serde database
        tables channelId world still room
      simp only [Except.ok.injEq, exists_eq_left', ← available]
      cases outcome with
      | error error =>
          exact ⟨_, (bind_result_of_ok queried).trans (bind_result_of_error result), by simp⟩
      | ok name =>
          exact ⟨_, (bind_result_of_ok queried).trans (bind_result_of_ok result), by simp⟩

end Channels

end Arisa.Database
