import Arisa.Database.Chunked

/-!
# Lookups of members

What `get_user` and `get_users` return in a world that stands still depends on
the tables alone: every id asked for has a member of its own, whatever ids come
with it, in which order the `HashSet` yields them and where the chunks are cut.
-/

namespace Arisa.Database

open Arisa.Crypto Arisa.Proto Arisa.Std DbM

section Specification

variable (database : Database) (tables : Tables) (channelId : Int64)

/-- The rows of `open_chat_member` for the link of a channel. -/
def openMemberRows : List OpenChatMember :=
  tables.openChatMembers.filter fun row => row.linkId.equals (tables.linkId channelId)

/-- The id has a row in `user.user`. -/
def HasUser (userId : Int64) : Prop :=
  ∃ row ∈ tables.users, row.id.equals (.integer userId) = true

instance (userId : Int64) : Decidable (HasUser tables userId) :=
  inferInstanceAs (Decidable (∃ row ∈ tables.users, row.id.equals (.integer userId) = true))

/-- The profile of the current user in an open channel. -/
def OwnProfileAvailable : Prop :=
  ∃ row, (selectOpenProfiles channelId tables).head? = some row ∧
    Succeeds (readCurrentOpenProfile row)

/-- The rows that a lookup in a regular channel reads decode: a friend is not looked up for a
user who is in `user.user`. -/
def RegularDecodes (userId : Int64) : Prop :=
  RowsDecode User.id readRegularUser tables.users userId ∧
    (¬ HasUser tables userId → RowsDecode Friend.id (readFriend database) tables.friends userId)

/-- The rows that a lookup of the id reads decode. -/
def UserDecodes (userId : Int64) : Prop :=
  if userId = database.currentUserId then
    isOpenChannel channelId = true → OwnProfileAvailable tables channelId
  else if isOpenChannel channelId = true then
    RowsDecode OpenChatMember.userId (readOpenChannelUser database)
      (openMemberRows tables channelId) userId
  else
    RegularDecodes database tables userId

/-- The current user as a member of the channel. -/
def currentMember : Option Member :=
  if isOpenChannel channelId = true then
    (firstRow (selectOpenProfiles channelId tables) readCurrentOpenProfile).toOption
  else some ⟨database.currentUserId, true, "Arisa", none, none⟩

/-- The member that is reported for an id other than the current user's. A user in `user.user`
is taken from there. -/
def otherMember (userId : Int64) : Option Member :=
  if isOpenChannel channelId = true then
    stored (readOpenChannelUser database) Member.id (openMemberRows tables channelId) userId
  else
    (stored readRegularUser Member.id tables.users userId).or
      (stored (readFriend database) Member.id tables.friends userId)

/-- The member that is reported for an id. -/
def memberOf (userId : Int64) : Option Member :=
  if userId = database.currentUserId then currentMember database tables channelId
  else otherMember database tables channelId userId

end Specification

/-! ## Rows -/

/-- A member has the id of the row it was read from. -/
theorem readRegularUser_id {row : User} {member : Member}
    (read : readRegularUser row = .ok member) : row.id.toI64 0 = .ok member.id := by
  simp only [readRegularUser, bind_eq_ok, bind_pure_comp, map_eq_ok] at read
  obtain ⟨id, found, _, _, _, _, rfl⟩ := read
  exact found

/-- Reading a row keeps the id that the row was found by. -/
theorem readFriend_id {database : Database} {row : Friend} {member : Member}
    (read : readFriend database row = .ok member) : row.id.toI64 0 = .ok member.id := by
  simp only [readFriend, bind_eq_ok, bind_pure_comp, map_eq_ok] at read
  obtain ⟨_, _, _, _, _, _, id, found, rfl⟩ := read
  exact found

/-- So it does for the member of an open channel. -/
theorem readOpenChannelUser_id {database : Database} {row : OpenChatMember} {member : Member}
    (read : readOpenChannelUser database row = .ok member) :
    row.userId.toI64 0 = .ok member.id := by
  simp only [readOpenChannelUser, bind_eq_ok, bind_pure_comp, map_eq_ok] at read
  obtain ⟨_, _, _, _, _, _, id, found, _, _, _, _, _, _, rfl⟩ := read
  exact found

/-- The query of the members of an open channel selects by id and nothing else. -/
theorem selectOpenChatMembers_filters (channelId : Int64) (tables : Tables) :
    FiltersBy (selectOpenChatMembers channelId) tables (openMemberRows tables channelId)
      OpenChatMember.userId := by
  intro ids
  rw [selectOpenChatMembers, openMemberRows, List.filter_filter]
  exact List.filter_congr fun row _ => Bool.and_comm ..

/-- The query of regular users selects by id and nothing else. -/
theorem selectUsers_filters (tables : Tables) :
    FiltersBy selectUsers tables tables.users User.id :=
  fun _ => rfl

/-- The query of friends selects by id and nothing else. -/
theorem selectFriends_filters (tables : Tables) :
    FiltersBy selectFriends tables tables.friends Friend.id :=
  fun _ => rfl

/-! ## Loading members -/

/-- A later row of the same id replaces an earlier one. -/
theorem Members.insertAll_eq_latest (members : Members) (found : List Member) (userId : Int64) :
    members.insertAll found userId = (latest Member.id found userId).or (members userId) := by
  induction found using List.reverseRecOn with
  | nil => rfl
  | append_singleton found last ih =>
      rw [latest_concat, Members.insertAll, List.foldl_append]
      change (Members.insertAll members found).insert last.id last userId = _
      rw [Members.insert]
      by_cases same : last.id = userId
      · rw [if_pos same, same, Function.update_self, Option.some_or]
      · rw [if_neg same, Function.update_of_ne (Ne.symm same), ih]

section Lookups

variable {database : Database} {tables : Tables} {world : World} {channelId : Int64}
  {userIds : List Int64} {members : Members}

/-- The members loaded for an open channel are the last stored rows of the ids asked for. -/
theorem loadOpenChannelUsers_spec (still : world.Still tables)
    (unknown : ∀ userId ∈ userIds, members userId = none) :
    Reads
      (∀ userId ∈ userIds, RowsDecode OpenChatMember.userId (readOpenChannelUser database)
        (openMemberRows tables channelId) userId)
      (Yields fun loaded => ∀ userId, loaded userId =
        if userId ∈ userIds then
          stored (readOpenChannelUser database) Member.id (openMemberRows tables channelId) userId
        else members userId)
      (database.loadOpenChannelUsers channelId userIds members world).result := by
  have queried := chunked_spec .members still (selectOpenChatMembers_filters channelId tables)
    (fun _ _ => @readOpenChannelUser_id database _ _) userIds
  refine queried.andThen fun _ values held => ⟨_, rfl, _, rfl, fun userId => ?_⟩
  rw [Members.insertAll_eq_latest, held userId]
  by_cases asked : userId ∈ userIds
  · rw [if_pos asked, if_pos asked, unknown userId asked, Option.or_none]
  · rw [if_neg asked, if_neg asked, Option.none_or]

/-- The rows of the two queries of a regular channel. -/
theorem forall_regularDecodes :
    ((∀ userId ∈ userIds, RowsDecode User.id readRegularUser tables.users userId) ∧
        ∀ userId ∈ userIds.filter fun userId => ¬ HasUser tables userId,
          RowsDecode Friend.id (readFriend database) tables.friends userId) ↔
      ∀ userId ∈ userIds, RegularDecodes database tables userId := by
  simp only [RegularDecodes, forall₂_and, List.mem_filter, decide_eq_true_iff, and_imp]

/-- The ids that the first query leaves missing are those without a row in `user.user`. -/
theorem missingIds_eq {found : List Member}
    (decode : ∀ userId ∈ userIds, RowsDecode User.id readRegularUser tables.users userId)
    (held : ∀ userId ∈ userIds, members.insertAll found userId =
      stored readRegularUser Member.id tables.users userId) :
    (userIds.filter fun userId => (members.insertAll found userId).isNone) =
      userIds.filter fun userId => ¬ HasUser tables userId := by
  apply List.filter_congr
  intro userId asked
  have row := stored_isSome (fun _ _ => readRegularUser_id) (decode userId asked)
  rw [held userId asked, ← Option.not_isSome, Bool.eq_iff_iff, decide_eq_true_iff, HasUser, ← row]
  simp

/-- A member from the second query, beside those from the first. -/
theorem insertFriends_eq {users friends : List Member}
    (decode : ∀ userId ∈ userIds, RowsDecode User.id readRegularUser tables.users userId)
    (unknown : ∀ userId ∈ userIds, members userId = none)
    (held : ∀ userId, latest Member.id users userId =
      if userId ∈ userIds then stored readRegularUser Member.id tables.users userId else none)
    (friendsHeld : ∀ userId, latest Member.id friends userId =
      if userId ∈ userIds.filter fun userId => ¬ HasUser tables userId then
        stored (readFriend database) Member.id tables.friends userId
      else none) (userId : Int64) :
    (members.insertAll users).insertAll friends userId =
      if userId ∈ userIds then
        (stored readRegularUser Member.id tables.users userId).or
          (stored (readFriend database) Member.id tables.friends userId)
      else members userId := by
  rw [Members.insertAll_eq_latest, Members.insertAll_eq_latest, friendsHeld userId, held userId]
  simp only [List.mem_filter, decide_eq_true_iff]
  by_cases asked : userId ∈ userIds
  · have row := stored_isSome (fun _ _ => readRegularUser_id) (decode userId asked)
    rw [if_pos asked, if_pos asked, unknown userId asked, Option.or_none]
    by_cases present : HasUser tables userId
    · obtain ⟨member, here⟩ := Option.isSome_iff_exists.mp (row.mpr present)
      rw [if_neg fun missing => missing.2 present, Option.none_or, here, Option.some_or]
    · have absent := Option.not_isSome_iff_eq_none.mp fun here => present (row.mp here)
      rw [if_pos ⟨asked, present⟩, absent, Option.or_none, Option.none_or]
  · rw [if_neg asked, if_neg asked, if_neg fun missing => asked missing.1, Option.none_or,
      Option.none_or]

/-- For regular users a row of `user` comes before one of `friends`. -/
theorem loadRegularUsers_spec (still : world.Still tables)
    (unknown : ∀ userId ∈ userIds, members userId = none) :
    Reads (∀ userId ∈ userIds, RegularDecodes database tables userId)
      (Yields fun loaded => ∀ userId, loaded userId =
        if userId ∈ userIds then
          (stored readRegularUser Member.id tables.users userId).or
            (stored (readFriend database) Member.id tables.friends userId)
        else members userId)
      (database.loadRegularUsers userIds members world).result := by
  have queried := chunked_spec .members still (selectUsers_filters tables)
    (fun _ _ => readRegularUser_id) userIds
  refine (queried.bind fun decode users held => ?_).congr forall_regularDecodes
  have withUsers : ∀ userId ∈ userIds, members.insertAll users.flatten userId =
      stored readRegularUser Member.id tables.users userId := by
    intro userId asked
    rw [Members.insertAll_eq_latest, held userId, if_pos asked, unknown userId asked,
      Option.or_none]
  simp only [missingIds_eq decode withUsers]
  have friendsQueried := chunked_spec .friends still (selectFriends_filters tables)
    (fun _ _ => @readFriend_id database _ _) (userIds.filter fun userId => ¬ HasUser tables userId)
  exact friendsQueried.andThen fun _ friends friendsHeld =>
    ⟨_, rfl, _, rfl, insertFriends_eq decode unknown held friendsHeld⟩

/-- The first row of a result fails where there is none or where it does not decode. -/
theorem firstRow_error {α β : Type} {rows : List α} {read : α → Except SqliteError β}
    {error : DbError} (failed : firstRow rows read = .error error) :
    ∃ cause, error = .sqlite cause := by
  cases rows with
  | nil =>
      cases failed
      exact ⟨_, rfl⟩
  | cons row rest =>
      simp only [firstRow] at failed
      cases here : read row with
      | ok value => simp [here, Except.mapError] at failed
      | error cause =>
          simp only [here, Except.mapError, Except.error.injEq] at failed
          exact ⟨cause, failed.symm⟩

/-- The lookup of the current user. -/
theorem getCurrentUser_spec (still : world.Still tables) :
    Reads (isOpenChannel channelId = true → OwnProfileAvailable tables channelId)
      (Yields fun member => currentMember database tables channelId = some member)
      (database.getCurrentUser channelId world).result := by
  unfold getCurrentUser currentMember
  by_cases openChannel : isOpenChannel channelId = true
  · rw [if_pos openChannel, if_neg (by simpa using openChannel),
      still.queryRow_result (selectOpenProfiles channelId) readCurrentOpenProfile]
    simp only [openChannel, forall_const, OwnProfileAvailable, ← succeeds_firstRow]
    cases read : firstRow (selectOpenProfiles channelId tables) readCurrentOpenProfile with
    | ok member => exact reads_of_eq (succeeds_ok member) rfl ⟨member, rfl, rfl⟩
    | error error =>
        obtain ⟨cause, rfl⟩ := firstRow_error read
        exact .inr ⟨not_succeeds_error _, cause, rfl⟩
  · rw [if_neg openChannel, if_pos (by simpa using openChannel)]
    exact reads_of_eq (fun found => absurd found openChannel) rfl ⟨_, rfl, rfl⟩

/-- The ids asked for are the current user's and the others. -/
theorem forall_mem_apart {current : Int64} {holds : Int64 → Prop} :
    (∀ userId ∈ userIds, holds userId) ↔
      (current ∈ userIds → holds current) ∧
        ∀ userId, userId ∈ userIds ∧ userId ≠ current → holds userId := by
  constructor
  · exact fun all => ⟨all _, fun userId other => all userId other.1⟩
  · rintro ⟨own, others⟩ userId asked
    by_cases same : userId = current
    · exact same ▸ own (same ▸ asked)
    · exact others userId ⟨asked, same⟩

/-- Only the members of the ids asked for matter. -/
theorem collectMembers_congr {left right : Members} {userIds : List Int64}
    (same : ∀ userId ∈ userIds, left userId = right userId) :
    collectMembers left userIds = collectMembers right userIds := by
  apply mapM_congr
  intro userId asked
  rw [same userId asked]

/-- The load of the members other than the current user. -/
theorem loadOthers_spec (still : world.Still tables)
    (others : ∀ userId ∈ userIds, userId ≠ database.currentUserId)
    (unknown : ∀ userId ∈ userIds, members userId = none) :
    Reads (∀ userId ∈ userIds, UserDecodes database tables channelId userId)
      (Yields fun loaded => ∀ userId, loaded userId =
        if userId ∈ userIds then otherMember database tables channelId userId
        else members userId)
      ((if isOpenChannel channelId = true then
          database.loadOpenChannelUsers channelId userIds members
        else database.loadRegularUsers userIds members) world).result := by
  unfold otherMember
  by_cases openChannel : isOpenChannel channelId = true
  · simp only [openChannel, if_true]
    refine (loadOpenChannelUsers_spec still unknown).congr (forall₂_congr fun userId asked => ?_)
    rw [UserDecodes, if_neg (others userId asked), if_pos openChannel]
  · simp only [openChannel]
    refine (loadRegularUsers_spec still unknown).congr (forall₂_congr fun userId asked => ?_)
    rw [UserDecodes, if_neg (others userId asked), if_neg openChannel]

/-- The user of the device is loaded only where asked for. -/
theorem loadCurrentUser_spec (still : world.Still tables) :
    Reads
      (database.currentUserId ∈ userIds →
        UserDecodes database tables channelId database.currentUserId)
      (Yields fun current => ∀ userId, current userId =
        if userId = database.currentUserId ∧ database.currentUserId ∈ userIds then
          currentMember database tables channelId
        else none)
      (database.loadCurrentUser channelId userIds world).result := by
  unfold loadCurrentUser
  by_cases asked : database.currentUserId ∈ userIds
  · simp only [asked, if_true, forall_const, and_true]
    rw [UserDecodes, if_pos rfl]
    refine Reads.andThen (getCurrentUser_spec (still.below .currentUser)) fun _ member same =>
      ⟨_, rfl, _, rfl, fun userId => ?_⟩
    by_cases own : userId = database.currentUserId
    · rw [if_pos own, same, own, Members.insert, Function.update_self]
    · rw [if_neg own, Members.insert, Function.update_of_ne own]
  · simp only [asked, if_false, false_implies, and_false]
    exact reads_of_eq trivial rfl ⟨_, rfl, fun _ => rfl⟩

/-- `getUsersWithConnection` with its two loads in sequence. -/
theorem getUsersWithConnection_eq (database : Database) (channelId : Int64)
    (userIds : List Int64) :
    database.getUsersWithConnection channelId userIds =
      hashSet userIds >>= fun uniqueIds =>
        database.loadCurrentUser channelId uniqueIds >>= fun current =>
          (if isOpenChannel channelId = true then
              database.loadOpenChannelUsers channelId
                (uniqueIds.filter fun userId => userId ≠ database.currentUserId) current
            else
              database.loadRegularUsers
                (uniqueIds.filter fun userId => userId ≠ database.currentUserId) current) >>=
            fun members => ofExcept (collectMembers members userIds) := by
  unfold getUsersWithConnection
  by_cases openChannel : isOpenChannel channelId = true
  · simp only [openChannel, if_true]
  · simp only [openChannel, Bool.false_eq_true, if_false]

/-- A lookup of members, by what the tables hold for each id. -/
theorem getUsersWithConnection_spec (still : world.Still tables) :
    Reads (∀ userId ∈ userIds, UserDecodes database tables channelId userId)
      (· = collectMembers (memberOf database tables channelId) userIds)
      (database.getUsersWithConnection channelId userIds world).result := by
  have others (userId : Int64) : userId ∈ ((world []).order userIds).filter
      (fun userId => userId ≠ database.currentUserId) ↔
      userId ∈ userIds ∧ userId ≠ database.currentUserId := by
    simp only [List.mem_filter, mem_order, decide_eq_true_iff]
  have apart : ((database.currentUserId ∈ (world []).order userIds →
        UserDecodes database tables channelId database.currentUserId) ∧
      ∀ userId ∈ ((world []).order userIds).filter
        (fun userId => userId ≠ database.currentUserId),
        UserDecodes database tables channelId userId) ↔
      ∀ userId ∈ userIds, UserDecodes database tables channelId userId := by
    simp only [mem_order, others]
    exact forall_mem_apart.symm
  rw [getUsersWithConnection_eq, bind_result_of_ok (hashSet_result userIds)]
  refine ((loadCurrentUser_spec still).bind fun _ current currentHeld => ?_).congr apart
  have different : ∀ userId ∈ ((world []).order userIds).filter
      (fun userId => userId ≠ database.currentUserId), userId ≠ database.currentUserId :=
    fun userId other => ((others userId).mp other).2
  have unknown : ∀ userId ∈ ((world []).order userIds).filter
      (fun userId => userId ≠ database.currentUserId), current userId = none := by
    intro userId other
    rw [currentHeld userId, if_neg fun own => different userId other own.1]
  refine (loadOthers_spec still different unknown).andThen fun _ loaded held =>
    ⟨_, ofExcept_result _, collectMembers_congr fun userId asked => ?_⟩
  rw [held userId, memberOf]
  by_cases own : userId = database.currentUserId
  · rw [if_neg fun other => different userId other own, currentHeld userId,
      if_pos ⟨own, mem_order.mpr (own ▸ asked)⟩, if_pos own]
  · rw [if_pos ((others userId).mpr ⟨asked, own⟩), if_neg own]

/-- The answer has one member for each id, in the order of the ids. -/
theorem collectMembers_eq_ok {members : Members} {found : List Member} :
    collectMembers members userIds = .ok found ↔
      List.Forall₂ (fun userId member => members userId = some member) userIds found := by
  rw [collectMembers, mapM_eq_ok_iff]
  apply iff_of_eq
  congr
  funext userId member
  cases members userId with
  | none => simp
  | some other => simp

/-- A batch returns the member of every id, when the rows of all of them decode. -/
theorem getUsers_eq_ok (still : world.Still tables) {found : List Member} :
    (database.getUsers channelId userIds world).result = some (.ok found) ↔
      List.Forall₂ (fun userId member => UserDecodes database tables channelId userId ∧
        memberOf database tables channelId userId = some member) userIds found := by
  rw [List.forall₂_and_left]
  by_cases empty : userIds = []
  · rw [getUsers, empty, List.isEmpty_nil, if_pos rfl]
    simp [eq_comm]
  · rw [getUsers, if_neg (by simpa using empty), still.withConnection_result,
      (getUsersWithConnection_spec still).eq_ok_iff, collectMembers_eq_ok]

/-- One lookup returns the member of the id. -/
theorem getUser_spec (still : world.Still tables) (userId : Int64) :
    Reads (UserDecodes database tables channelId userId)
      (· = (memberOf database tables channelId userId).elim (.error (.memberNotFound userId)) .ok)
      (database.getUser channelId userId world).result := by
  have users : (database.getUsers channelId [userId] world).result =
      (database.getUsersWithConnection channelId [userId] world).result := by
    rw [getUsers, List.isEmpty_cons, if_neg Bool.false_ne_true, still.withConnection_result]
  have alone : (∀ other ∈ [userId], UserDecodes database tables channelId other) ↔
      UserDecodes database tables channelId userId := List.forall_mem_singleton
  rcases @getUsersWithConnection_spec database _ _ channelId [userId] still with
    ⟨decode, _, result, rfl⟩ | ⟨undecodable, cause, result⟩
  · rw [← users, collectMembers, List.mapM_cons] at result
    refine .inl ⟨alone.mp decode, _, ?_, rfl⟩
    cases member : memberOf database tables channelId userId with
    | none =>
        rw [member] at result
        exact bind_result_of_error result
    | some found =>
        rw [member] at result
        exact bind_result_of_ok result
  · exact .inr ⟨fun decode => undecodable (alone.mpr decode), cause,
      bind_result_of_error (users.trans result)⟩

/-- In a world that stands still, `get_user` returns the member of the tables, provided that his
rows decode. -/
theorem getUser_eq_ok (still : world.Still tables) {userId : Int64} {member : Member} :
    (database.getUser channelId userId world).result = some (.ok member) ↔
      UserDecodes database tables channelId userId ∧
        memberOf database tables channelId userId = some member := by
  rw [(getUser_spec still userId).eq_ok_iff]
  cases memberOf database tables channelId userId with
  | none => simp
  | some found => simp

end Lookups

end Arisa.Database
