import Arisa.Database.MemberLookups
import Arisa.Database.Mapping
import Arisa.Database.MessageLookups

/-!
# Results that depend on the tables alone

Two worlds that stand still over the same tables differ in the iteration orders
of hash sets only. An operation returns the same value in both; where it fails,
the order may decide which row is met first that does not decode.
-/

namespace Arisa.Database

open Arisa.Crypto Arisa.Proto Arisa.Std DbM

/-- The same error, or two errors of SQLite. -/
def ErrorsAlike (left right : DbError) : Prop :=
  left = right ∨ (∃ cause, left = .sqlite cause) ∧ ∃ cause, right = .sqlite cause

/-- The same result, up to the choice of an error of SQLite. -/
inductive Alike {α : Type} : (left right : Option (Except DbError α)) → Prop where
  | bounded : Alike none none
  | ok (value : α) : Alike (some (.ok value)) (some (.ok value))
  | error {left right : DbError} (alike : ErrorsAlike left right) :
      Alike (some (.error left)) (some (.error right))

namespace Alike

variable {α β : Type} {left right : World}

/-- An outcome is like itself. -/
theorem refl (result : Option (Except DbError α)) : Alike result result := by
  rcases result with _ | error | value
  · exact .bounded
  · exact .error (.inl rfl)
  · exact .ok value

/-- Failures of SQLite are not told apart: what SQLite reports differs with the world. -/
theorem sqlite (first second : SqliteError) :
    Alike (some (.error (.sqlite first)) : Option (Except DbError α))
      (some (.error (.sqlite second))) :=
  .error (.inr ⟨⟨first, rfl⟩, second, rfl⟩)

/-- Equal outcomes are alike. -/
theorem of_eq {first second : Option (Except DbError α)} (same : first = second) :
    Alike first second :=
  same ▸ refl first

/-- Alike outcomes return the same values. -/
theorem ok_iff {first second : Option (Except DbError α)} (alike : Alike first second)
    (value : α) : first = some (.ok value) ↔ second = some (.ok value) := by
  cases alike with
  | bounded => simp
  | ok found => rfl
  | error similar => simp

/-- Of two alike outcomes one comes to an end exactly if the other does. -/
theorem isSome_iff {first second : Option (Except DbError α)} (alike : Alike first second) :
    first.isSome ↔ second.isSome := by
  cases alike with
  | bounded => rfl
  | ok value => rfl
  | error similar => rfl

/-- Two readings of the same rows. -/
theorem of_reads {decodes : Prop} {expected : Except DbError α}
    {first second : Option (Except DbError α)} (left : Reads decodes (· = expected) first)
    (right : Reads decodes (· = expected) second) : Alike first second := by
  rcases left with ⟨decode, _, rfl, rfl⟩ | ⟨undecodable, cause, rfl⟩
  all_goals rcases right with ⟨otherDecode, _, rfl, rfl⟩ | ⟨otherUndecodable, otherCause, rfl⟩
  · exact refl _
  · exact absurd decode otherUndecodable
  · exact absurd otherDecode undecodable
  · exact sqlite cause otherCause

/-- Alike beginnings and alike continuations make alike operations. -/
theorem bind {first : DbM α} {second : α → DbM β}
    (head : Alike (first left).result (first right).result)
    (tail : ∀ value, Alike (second value left).result (second value right).result) :
    Alike ((first >>= second) left).result ((first >>= second) right).result := by
  generalize leftHead : (first left).result = leftResult at head
  generalize rightHead : (first right).result = rightResult at head
  cases head with
  | bounded =>
      rw [bind_result_of_none leftHead, bind_result_of_none rightHead]
      exact .bounded
  | ok value =>
      rw [bind_result_of_ok leftHead, bind_result_of_ok rightHead]
      exact tail value
  | error alike =>
      rw [bind_result_of_error leftHead, bind_result_of_error rightHead]
      exact .error alike

/-- A result that is looked at as a value. -/
theorem attempt {operation : DbM α} {second : Except DbError α → DbM β}
    (head : Alike (operation left).result (operation right).result)
    (tail : ∀ first other, Alike (some first) (some other) →
      Alike (second first left).result (second other right).result) :
    Alike ((attempt operation >>= second) left).result
      ((attempt operation >>= second) right).result := by
  have attempted (world : World) (outcome : Except DbError α)
      (returned : (operation world).result = some outcome) :
      (DbM.attempt operation world).result = some (.ok outcome) := by
    rw [attempt_result, returned]
    rfl
  have none (world : World) (absent : (operation world).result = none) :
      (DbM.attempt operation world).result = none := by
    rw [attempt_result, absent]
    rfl
  generalize leftHead : (operation left).result = leftResult at head
  generalize rightHead : (operation right).result = rightResult at head
  cases head with
  | bounded =>
      rw [bind_result_of_none (none left leftHead), bind_result_of_none (none right rightHead)]
      exact .bounded
  | ok value =>
      rw [bind_result_of_ok (attempted left _ leftHead),
        bind_result_of_ok (attempted right _ rightHead)]
      exact tail _ _ (.ok value)
  | error alike =>
      rw [bind_result_of_ok (attempted left _ leftHead),
        bind_result_of_ok (attempted right _ rightHead)]
      exact tail _ _ (.error alike)

/-- So a traversal is alike if each of its calls is, wherever it stands. -/
theorem traverse {site : Nat → Site} {call : α → DbM β}
    (each : ∀ index item, Alike (call item (left.below (site index))).result
      (call item (right.below (site index))).result) (items : List α) :
    Alike (DbM.traverse site call items left).result
      (DbM.traverse site call items right).result := by
  have loop : ∀ index, Alike (traverseFrom site call index items left).result
      (traverseFrom site call index items right).result := by
    induction items with
    | nil => exact fun _ => refl _
    | cons item rest ih =>
        intro index
        refine Alike.bind ?_ fun value => Alike.bind (ih (index + 1)) fun _ => refl _
        exact each index item
  exact loop 0

end Alike

section Lookups

variable {serde : Serde} {database : Database} {tables : Tables} {left right : World}

/-- In two worlds that stand still over the same tables, the lookup of members is alike. -/
theorem getUsersWithConnection_alike (leftStill : left.Still tables)
    (rightStill : right.Still tables) (channelId : Int64) (userIds : List Int64) :
    Alike (database.getUsersWithConnection channelId userIds left).result
      (database.getUsersWithConnection channelId userIds right).result :=
  .of_reads (getUsersWithConnection_spec leftStill) (getUsersWithConnection_spec rightStill)

/-- The lookup of one member is alike in two such worlds. -/
theorem getUser_alike (leftStill : left.Still tables) (rightStill : right.Still tables)
    (channelId userId : Int64) :
    Alike (database.getUser channelId userId left).result
      (database.getUser channelId userId right).result := by
  refine Alike.bind ?_ fun members => ?_
  · rw [getUsers, if_neg (by simp), leftStill.withConnection_result,
      rightStill.withConnection_result]
    exact getUsersWithConnection_alike leftStill rightStill channelId [userId]
  · cases members with
    | nil => exact .refl _
    | cons member rest => exact .refl _

/-- The name of a channel is alike in them. -/
theorem channelName_alike (leftStill : left.Still tables) (rightStill : right.Still tables)
    (channelId : Int64) (room : RoomRow) :
    Alike (database.channelName serde channelId room left).result
      (database.channelName serde channelId room right).result := by
  unfold channelName
  split
  · refine Alike.bind ?_ fun _ => .refl _
    apply Alike.of_eq
    rw [atSite_result, atSite_result, (leftStill.below .link).queryRow_result,
      (rightStill.below .link).queryRow_result]
  · cases room.metadata.bind (parseNameFromMetadata serde) with
    | some name => exact .refl _
    | none =>
        cases room.vData.bind (parseDisplayUserIds serde) with
        | none => exact .refl _
        | some userIds =>
            refine Alike.bind ?_ fun _ => .refl _
            exact getUsersWithConnection_alike (leftStill.below .displayMembers)
              (rightStill.below .displayMembers) channelId userIds

/-- The lookup of a channel is alike in them. -/
theorem getChannel_alike (leftStill : left.Still tables) (rightStill : right.Still tables)
    (channelId : Int64) :
    Alike (database.getChannel serde channelId left).result
      (database.getChannel serde channelId right).result := by
  unfold getChannel
  rw [leftStill.withConnection_result, rightStill.withConnection_result]
  refine Alike.bind ?_ fun room =>
    Alike.bind (channelName_alike leftStill rightStill channelId room) fun _ => .refl _
  apply Alike.of_eq
  rw [atSite_result, atSite_result, (leftStill.below .channel).queryRow_result,
    (rightStill.below .channel).queryRow_result]

/-- The rows of messages are alike in them. -/
theorem getMessageRows_alike (leftStill : left.Still tables) (rightStill : right.Still tables)
    (channelId : Int64) (messageIds : List Int64) :
    Alike (getMessageRows channelId messageIds left).result
      (getMessageRows channelId messageIds right).result :=
  .of_reads (getMessageRows_spec leftStill) (getMessageRows_spec rightStill)

end Lookups

section Mapping

variable {serde : Serde} {database : Database} {tables : Tables} {recurse : MessageRow → DbM Event}

/-- The recursive call returns the same in all worlds that stand still. -/
def Steady (tables : Tables) (recurse : MessageRow → DbM Event) : Prop :=
  ∀ row left right, World.Still left tables → World.Still right tables →
    Alike (recurse row left).result (recurse row right).result

variable (steady : Steady tables recurse)

include steady

/-- A snapshot is alike if the mapping it recurses to is. -/
theorem getMessageSnapshot_alike {left right : World} (leftStill : left.Still tables)
    (rightStill : right.Still tables) (channelId messageId : Int64) :
    Alike (getMessageSnapshot recurse channelId messageId left).result
      (getMessageSnapshot recurse channelId messageId right).result := by
  have message : Alike (getMessage recurse channelId messageId left).result
      (getMessage recurse channelId messageId right).result := by
    refine Alike.bind (Alike.bind (getMessageRows_alike leftStill rightStill channelId [messageId])
      fun rows => ?_) fun events => ?_
    · refine Alike.traverse (fun index row => ?_) rows
      exact steady row _ _ (leftStill.below (.message index)) (rightStill.below (.message index))
    · cases events with
      | nil => exact .refl _
      | cons event rest => exact .refl _
  refine Alike.attempt message fun first other alike => ?_
  cases alike with
  | ok event => exact .refl _
  | @error error other similar =>
      rcases similar with rfl | ⟨⟨cause, rfl⟩, otherCause, rfl⟩
      · cases error <;> exact .refl _
      · exact .sqlite cause otherCause

/-- A feed is alike if the snapshots that are put in it are. -/
theorem enrichFeed_alike {left right : World} (leftStill : left.Still tables)
    (rightStill : right.Still tables) (row : MessageRow) (value : FeedValue) (channel : Channel)
    (author : Option Member) :
    Alike (enrichFeed serde database recurse row value channel author left).result
      (enrichFeed serde database recurse row value channel author right).result := by
  have snapshot (index : Nat) (messageId : Int64) :
      Alike (getMessageSnapshot recurse row.channelId messageId
          (left.below (.snapshot index))).result
        (getMessageSnapshot recurse row.channelId messageId
          (right.below (.snapshot index))).result :=
    getMessageSnapshot_alike steady (leftStill.below (.snapshot index))
      (rightStill.below (.snapshot index)) row.channelId messageId
  cases value with
  | messageDeleted deleted =>
      unfold enrichFeed
      dsimp only
      split
      · exact .refl _
      · exact Alike.bind (snapshot 0 deleted.messageId) fun _ => .refl _
  | messageChanged changed =>
      unfold enrichFeed
      dsimp only
      split
      · exact .refl _
      · exact Alike.bind (snapshot 0 changed.messageId) fun _ => .refl _
  | messageHidden hidden =>
      exact Alike.bind (Alike.traverse snapshot _) fun _ => .refl _
  | _ => exact .refl _

/-- Together: one level of the mapping is alike if the next one is. -/
theorem mapMessageBody_alike {left right : World} (leftStill : left.Still tables)
    (rightStill : right.Still tables) (row : MessageRow) :
    Alike (mapMessageBody serde database recurse row left).result
      (mapMessageBody serde database recurse row right).result := by
  have author : Alike (atSite .author (database.getUser row.channelId row.userId) left).result
      (atSite .author (database.getUser row.channelId row.userId) right).result :=
    getUser_alike (leftStill.below .author) (rightStill.below .author) row.channelId row.userId
  refine Alike.attempt author fun first other alike => ?_
  have same : first.toOption = other.toOption := by
    cases alike with
    | ok member => rfl
    | error similar => rfl
  rw [same]
  refine Alike.bind (getChannel_alike (leftStill.below .channel) (rightStill.below .channel)
    row.channelId) fun channel => Alike.bind ?_ fun event => ?_
  · rw [ofExcept_result, ofExcept_result]
    exact .refl _
  · split
    · exact .refl _
    · obtain ⟨_ | value⟩ := event
      · exact .refl _
      · cases value with
        | message message => exact .refl _
        | feed feed =>
            obtain ⟨feedChannel, _ | ⟨_ | value⟩, feedAuthor⟩ := feed
            · exact .refl _
            · exact .refl _
            · refine Alike.bind ?_ fun _ => .refl _
              exact enrichFeed_alike steady leftStill rightStill row value channel _

end Mapping

/-- A mapping depends on the tables alone. -/
theorem mapMessage_steady (serde : Serde) (database : Database) (tables : Tables) (fuel : Nat) :
    Steady tables (mapMessage serde database fuel) := by
  induction fuel with
  | zero => exact fun _ _ _ _ _ => .bounded
  | succ fuel ih =>
      intro row left right leftStill rightStill
      exact mapMessageBody_alike ih leftStill rightStill row

end Arisa.Database
