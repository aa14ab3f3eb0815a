import Arisa.Database.Mapping
import Arisa.Database.Results

/-!
# The recursion bound

The bound of `mapMessage` only decides whether there is a result, never which.
-/

namespace Arisa.Database

open Arisa.Crypto Arisa.Proto DbM

variable {serde : Serde} {database : Database}

section Recursion

variable {less more : MessageRow → DbM Event}

/-- A snapshot whose mapping may go deeper returns what it returned before. -/
theorem getMessageSnapshot_extends (extended : ∀ row, Extends (less row) (more row))
    (channelId messageId : Int64) :
    Extends (getMessageSnapshot less channelId messageId)
      (getMessageSnapshot more channelId messageId) := by
  refine Extends.bind (Extends.attempt ?_) fun _ => .refl _
  refine Extends.bind ?_ fun _ => .refl _
  exact (Extends.refl _).bind fun rows => Extends.traverse extended rows

/-- So does a feed with its snapshots. -/
theorem enrichFeed_extends (extended : ∀ row, Extends (less row) (more row)) (row : MessageRow)
    (value : FeedValue) (channel : Channel) (author : Option Member) :
    Extends (enrichFeed serde database less row value channel author)
      (enrichFeed serde database more row value channel author) := by
  have snapshot := getMessageSnapshot_extends extended row.channelId
  cases value with
  | messageDeleted deleted =>
      unfold enrichFeed
      dsimp only
      split
      · exact .refl _
      · exact ((snapshot _).atSite _).bind fun _ => .refl _
  | messageChanged changed =>
      unfold enrichFeed
      dsimp only
      split
      · exact .refl _
      · exact ((snapshot _).atSite _).bind fun _ => .refl _
  | messageHidden hidden => exact (Extends.traverse snapshot _).bind fun _ => .refl _
  | _ => exact .refl _

/-- So one level of the mapping passes this on. -/
theorem mapMessageBody_extends (extended : ∀ row, Extends (less row) (more row))
    (row : MessageRow) :
    Extends (mapMessageBody serde database less row) (mapMessageBody serde database more row) := by
  refine (Extends.refl _).bind fun author => (Extends.refl _).bind fun channel =>
    (Extends.refl _).bind fun event => ?_
  split
  · exact .refl _
  · unfold enrichEvent
    split
    · exact (enrichFeed_extends extended row _ channel _).bind fun _ => .refl _
    · exact .refl _

end Recursion

/-- A deeper bound changes no result that was reached. -/
theorem mapMessage_extends {fuel more : Nat} (order : fuel ≤ more) (row : MessageRow) :
    Extends (mapMessage serde database fuel row) (mapMessage serde database more row) := by
  induction fuel generalizing more row with
  | zero => exact fun _ _ same => nomatch same
  | succ fuel ih =>
      obtain ⟨more, rfl⟩ : ∃ bound, more = bound + 1 := ⟨more - 1, by omega⟩
      exact mapMessageBody_extends (fun other => ih (Nat.le_of_succ_le_succ order) other) row

/-- Two bounds that are both large enough give the same result. -/
theorem mapMessage_unique {fuel other : Nat} {row : MessageRow} {world : World}
    {result otherResult : Except DbError Event}
    (ended : (mapMessage serde database fuel row world).result = some result)
    (otherEnded : (mapMessage serde database other row world).result = some otherResult) :
    result = otherResult := by
  have left := mapMessage_extends (Nat.le_max_left fuel other) row world result ended
  have right := mapMessage_extends (Nat.le_max_right fuel other) row world otherResult otherEnded
  rw [left] at right
  exact Option.some.inj right

end Arisa.Database
