import Arisa.Database.MemberLookups

/-!
# A batch of users is its single lookups

`get_users` returns in a world that stands still what `get_user` returns for each
of the ids, in their order. Where only members are missing, the first id without
one is named.
-/

namespace Arisa.Database

open Arisa.Crypto Arisa.Proto Arisa.Std DbM

/-- No two rows have the same key. -/
def KeysUnique {α : Type} (key : α → SqlValue) (rows : List α) : Prop :=
  ∀ left ∈ rows, ∀ right ∈ rows, ∀ id,
    (key left).equals (.integer id) = true → (key right).equals (.integer id) = true → left = right

/-- The keys by which members of a channel are looked up are unique. -/
structure MemberKeysUnique (tables : Tables) (channelId : Int64) : Prop where
  users : KeysUnique User.id tables.users
  friends : KeysUnique Friend.id tables.friends
  openChatMembers : KeysUnique OpenChatMember.userId (openMemberRows tables channelId)

/-- A batch lookup of members against the lookup of each of its ids. -/
structure UsersBatched (database : Database) (tables : Tables) (channelId : Int64)
    (userIds : List Int64) (batch : Option (Except DbError (List Member)))
    (single : Int64 → Option (Except DbError Member)) : Prop where
  batches : Batches (fun userId member => single userId = some (.ok member)) userIds
    fun members => batch = some (.ok members)
  /-- The first id without a member is named, when nothing worse happens for any id. -/
  firstMissing : (∀ userId ∈ userIds, ∀ error, single userId = some (.error error) →
      ∃ missing, error = .memberNotFound missing) →
    ∀ before userId after, userIds = before ++ userId :: after →
      (∀ earlier ∈ before, ∃ member, single earlier = some (.ok member)) →
      (¬ ∃ member, single userId = some (.ok member)) →
      batch = some (.error (.memberNotFound userId))
  /-- In a regular channel a row of `user.user` is reported, whatever `friends` holds. -/
  fromUsers : isOpenChannel channelId = false → ∀ members, batch = some (.ok members) →
    ∀ (index : Nat) (userId : Int64), userIds[index]? = some userId →
      userId ≠ database.currentUserId →
      ∀ row ∈ tables.users, row.id.equals (.integer userId) = true →
        ∃ member, members[index]? = some member ∧ readRegularUser row = .ok member

section Batched

variable {database : Database} {tables : Tables} {world : World} {channelId : Int64}
  {userIds : List Int64} {single : Int64 → World}

/-- A member of a regular channel with a row in `user.user` was read from that row. -/
theorem read_of_memberOf (unique : KeysUnique User.id tables.users)
    (regular : isOpenChannel channelId = false) {userId : Int64} {member : Member}
    (other : userId ≠ database.currentUserId)
    (decodes : UserDecodes database tables channelId userId)
    (reported : memberOf database tables channelId userId = some member) {row : User}
    (listed : row ∈ tables.users) (keyed : row.id.equals (.integer userId) = true) :
    readRegularUser row = .ok member := by
  rw [UserDecodes, if_neg other, if_neg (by simp [regular])] at decodes
  rw [memberOf, if_neg other, otherMember, if_neg (by simp [regular])] at reported
  have present := (stored_isSome (fun _ _ => readRegularUser_id) decodes.1).mpr
    ⟨row, listed, keyed⟩
  obtain ⟨found, here⟩ := Option.isSome_iff_exists.mp present
  rw [here, Option.some_or] at reported
  cases reported
  obtain ⟨source, inside, same, read⟩ := row_of_stored (fun _ _ => readRegularUser_id) here
  rw [unique row listed source inside userId keyed same]
  exact read

/-- A batch of users is its single lookups, in every iteration order. -/
theorem getUsers_batched (unique : MemberKeysUnique tables channelId)
    (still : world.Still tables) (singles : ∀ userId, (single userId).Still tables) :
    UsersBatched database tables channelId userIds
      (database.getUsers channelId userIds world).result
      fun userId => (database.getUser channelId userId (single userId)).result where
  batches := by
    apply Batches.of_forall₂
    intro members
    rw [getUsers_eq_ok still]
    simp only [getUser_eq_ok (singles _)]
  firstMissing onlyMissing before userId after whole found notFound := by
    have outcome (other : Int64) (asked : other ∈ userIds) :
        UserDecodes database tables channelId other := by
      rcases @getUser_spec database _ _ channelId (singles other) other with
        ⟨decode, -⟩ | ⟨-, cause, result⟩
      · exact decode
      · obtain ⟨missing, same⟩ := onlyMissing other asked _ result
        cases same
    have member : memberOf database tables channelId userId = none := by
      rw [Option.eq_none_iff_forall_not_mem]
      intro member here
      have asked : userId ∈ userIds := by simp [whole]
      exact notFound ⟨member, (getUser_eq_ok (singles userId)).mpr ⟨outcome userId asked, here⟩⟩
    have filled : ¬ userIds.isEmpty = true := by simp [whole]
    rw [getUsers, if_neg filled, still.withConnection_result]
    rcases @getUsersWithConnection_spec database _ _ channelId userIds still with
      ⟨-, _, result, rfl⟩ | ⟨undecodable, -⟩
    · rw [result, collectMembers, Option.some.injEq, mapM_eq_error_iff]
      refine ⟨before, userId, after, whole, ?_, by rw [member]⟩
      intro earlier listed
      obtain ⟨value, returned⟩ := found earlier listed
      rw [((getUser_eq_ok (singles earlier)).mp returned).2]
      exact succeeds_ok value
    · exact absurd outcome undecodable
  fromUsers regular members returned index userId here other row listed keyed := by
    have each := (getUsers_eq_ok still).mp returned
    obtain ⟨bound, same⟩ := List.getElem?_eq_some_iff.mp here
    have within : index < members.length := each.length_eq ▸ bound
    obtain ⟨decodes, reported⟩ := each.get bound within
    simp only [List.get_eq_getElem, same] at decodes reported
    exact ⟨members[index], List.getElem?_eq_getElem within,
      read_of_memberOf unique.users regular other decodes reported listed keyed⟩

end Batched

/-- A database whose texts are no base64. -/
def textDatabase : Database :=
  ⟨1, ⟨1, ⟨fun _ => .error "Invalid input length: 7", fun _ _ _ => .error ⟨[]⟩,
    fun _ => .error ⟨[]⟩⟩⟩⟩

/-- A user who is in both tables. -/
def neoTables : Tables where
  chatLogs := []
  chatRooms := []
  openLinks := []
  openProfiles := []
  openChatMembers := []
  users := [⟨.integer 5, .text "Neo", .null⟩]
  friends := [⟨.integer 5, .text "Mr. A.", .null, .integer 0⟩]
  primaryKey := List.nodup_nil

/-- Two members are asked for, one of them twice. -/
theorem getUsers_batched_neo :
    UsersBatched textDatabase neoTables 7 [5, 1, 5]
        (textDatabase.getUsers 7 [5, 1, 5] (World.steady neoTables)).result
        (fun userId => (textDatabase.getUser 7 userId (World.steady neoTables)).result) ∧
      (textDatabase.getUsers 7 [5, 1, 5] (World.steady neoTables)).result =
        some (.ok [⟨5, false, "Neo", none, none⟩, ⟨1, true, "Arisa", none, none⟩,
          ⟨5, false, "Neo", none, none⟩]) := by
  have single {α : Type} (key : α → SqlValue) (row : α) : KeysUnique key [row] := by
    intro left listed right other _ _ _
    rw [List.mem_singleton.mp listed, List.mem_singleton.mp other]
  have none {α : Type} (key : α → SqlValue) : KeysUnique key [] := nofun
  have still := World.steady_still neoTables
  exact ⟨getUsers_batched ⟨single _ _, single _ _, none _⟩ still fun _ => still, rfl⟩

end Arisa.Database
