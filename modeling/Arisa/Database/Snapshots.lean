import Arisa.Database.References
import Arisa.Semantics.Exploration

/-!
# Mapping as an exploration of references

In a world that stands still and whose channel can be mapped, `map_message`
explores the rows its feed refers to, and theirs in turn: it ends exactly when
that exploration ends, and then succeeds exactly when nothing on the way is
malformed.
-/

namespace Arisa.Database

open Arisa.Crypto Arisa.Proto Arisa.Semantics Arisa.Std DbM

/-! ## The author of a feed -/

/-- The only place a feed keeps its author. -/
def withAuthor (author : Option Member) : FeedValue → FeedValue
  | .userKicked kicked => .userKicked { kicked with kickedBy := author }
  | value => value

/-- Of all feeds only a kick keeps its author, so the author can be filled in afterwards. -/
theorem feedValue_author (serde : Serde) (json : Value) (feedTypeId : Int64)
    (author : Option Member) (currentMessageId : Int64) :
    feedValue serde json feedTypeId author currentMessageId =
      (feedValue serde json feedTypeId none currentMessageId).map (withAuthor author) := by
  unfold feedValue
  cases FeedType.ofInt64 feedTypeId with
  | userJoined => cases requiredArray json "members" <;> rfl
  | openLinkUserJoined => cases requiredArray json "members" <;> rfl
  | messageDeleted => cases requiredId json "logId" <;> rfl
  | messageChanged =>
      cases requiredId json "logId" with
      | error error => rfl
      | ok messageId => cases requiredI64 json "targetRevision" <;> rfl
  | messageHidden =>
      by_cases rewritten : feedTypeId = openChatRewriteType
      · simp only [rewritten, if_true]
        rfl
      · simp only [rewritten, if_false]
        cases requiredArray json "chatLogInfos" <;> rfl
  | managerSpeakerMode =>
      cases requiredI64 json "eventType" with
      | error error => rfl
      | ok eventType =>
          simp only [bind, Except.bind]
          split
          · rfl
          · split <;> rfl
  | _ => rfl

/-- Whether a feed parses does not depend on its author. -/
theorem parse_author (serde : Serde) (raw : String) (author : Option Member)
    (currentMessageId : Int64) :
    parse serde raw author currentMessageId =
      (parse serde raw none currentMessageId).map
        fun payload => ⟨payload.value.map (withAuthor author)⟩ := by
  unfold parse
  cases (serde.fromStr raw).mapError fun error => "invalid feed JSON: " ++ error with
  | error error => rfl
  | ok json =>
      simp only [bind, Except.bind]
      rw [feedValue_author]
      cases feedValue serde json _ none currentMessageId <;> rfl

/-- A feed text that does not parse. -/
theorem assembleMessage_of_error {serde : Serde} {database : Database} {row : MessageRow}
    {message : String} (feed : row.messageType = 0)
    (parsed : parse serde (messageText serde database row) none row.messageId = .error message)
    (channel : Channel) (author : Option Member) :
    assembleMessage serde database row channel author = .error (.messageMapping message) := by
  rw [assembleMessage, if_pos feed, parse_author, parsed]
  rfl

/-- A feed text that parses, with its author added. -/
theorem assembleMessage_of_ok {serde : Serde} {database : Database} {row : MessageRow}
    {payload : FeedPayload} (feed : row.messageType = 0)
    (parsed : parse serde (messageText serde database row) none row.messageId = .ok payload)
    (channel : Channel) (author : Option Member) :
    assembleMessage serde database row channel author =
      .ok ⟨some (.feed ⟨some channel, some ⟨payload.value.map (withAuthor author)⟩, author⟩)⟩ := by
  rw [assembleMessage, if_pos feed, parse_author, parsed]
  rfl

/-- The messages that `enrich_feed` looks up for a payload, in order. -/
def targetIds (row : MessageRow) : FeedValue → List Int64
  | .messageDeleted deleted =>
      if deleted.messageId = row.messageId then [] else [deleted.messageId]
  | .messageChanged changed =>
      if changed.messageId = row.messageId then [] else [changed.messageId]
  | .messageHidden hidden =>
      hidden.messageIds.filter fun messageId => messageId ≠ row.messageId
  | _ => []

/-- The author has no part in what a feed refers to. -/
@[simp] theorem targetIds_withAuthor (row : MessageRow) (author : Option Member)
    (value : FeedValue) : targetIds row (withAuthor author value) = targetIds row value := by
  cases value <;> rfl

/-- What the content of a row refers to; `none` when its feed does not parse. -/
def references (serde : Serde) (database : Database) (row : MessageRow) : Option (List Int64) :=
  if row.messageType ≠ 0 then
    some []
  else
    match parse serde (messageText serde database row) none row.messageId with
    | .error _ => none
    | .ok payload => some ((payload.value.map (targetIds row)).getD [])

/-- The rows a row refers to. A row that does not decode or parse cannot be visited. -/
def visit (serde : Serde) (database : Database) (tables : Tables) : Lookup → Option (List Lookup)
  | .undecodable => none
  | .missing => some []
  | .found row =>
      (references serde database row).map (List.map (lookup tables row.channelId))

/-! ## Verdicts -/

/-- Whether a call succeeded; `none` when the recursion bound was reached. -/
def verdict {α : Type} (result : Option (Except DbError α)) : Option Bool :=
  result.map fun
    | .ok _ => true
    | .error _ => false

section Verdicts

variable {α β : Type} {world : World}

/-- Without a result there is no verdict. -/
@[simp] theorem verdict_none : verdict (none : Option (Except DbError α)) = none := rfl

/-- A value is a success. -/
@[simp] theorem verdict_ok (value : α) : verdict (some (.ok value)) = some true := rfl

/-- An error is no success, whichever it is. -/
@[simp] theorem verdict_error (error : DbError) :
    verdict (some (.error error) : Option (Except DbError α)) = some false := rfl

/-- There is a verdict exactly if the recursion came to an end. -/
@[simp] theorem isSome_verdict (result : Option (Except DbError α)) :
    (verdict result).isSome = result.isSome :=
  Option.isSome_map

/-- Success is some value. -/
theorem verdict_eq_true {result : Option (Except DbError α)} :
    verdict result = some true ↔ ∃ value, result = some (.ok value) := by
  rcases result with _ | error | value
  · simp
  · simp
  · simp

/-- A pure conversion of the value keeps the verdict. -/
theorem verdict_bind_pure {operation : DbM α} {convert : α → β} :
    verdict ((operation >>= fun value => (pure (convert value) : DbM β)) world).result =
      verdict (operation world).result := by
  rcases result : (operation world).result with _ | error | value
  · rw [bind_result_of_none result]
    rfl
  · rw [bind_result_of_error result]
    rfl
  · rw [bind_result_of_ok result]
    rfl

/-- The verdict of a loop is the search through its calls. -/
theorem verdict_traverseFrom {site : Nat → Site} {call : α → DbM β} (index : Nat)
    (items : List α) :
    verdict (traverseFrom site call index items world).result =
      searchAll (fun numbered : α × Nat =>
          verdict (call numbered.1 (world.below (site numbered.2))).result)
        (items.zipIdx index) := by
  induction items generalizing index with
  | nil => rfl
  | cons item rest ih =>
      rw [List.zipIdx_cons, searchAll, traverseFrom, ← ih (index + 1)]
      rcases first : (call item (world.below (site index))).result with _ | error | value
      · have here : (atSite (site index) (call item) world).result = none := first
        rw [bind_result_of_none here]
        rfl
      · have here : (atSite (site index) (call item) world).result = some (.error error) := first
        rw [bind_result_of_error here]
        rfl
      · have here : (atSite (site index) (call item) world).result = some (.ok value) := first
        rw [bind_result_of_ok here]
        exact verdict_bind_pure

end Verdicts

/-! ## Errors of a mapping -/

/-- The error that a snapshot takes for an absent message. -/
def NotAbsent (error : DbError) : Prop :=
  ∀ messageId, error ≠ .messageNotFound messageId

section Errors

variable (serde : Serde) (database : Database)

/-- The lookup of regular users does not report an absent message. -/
theorem raises_loadRegularUsers (userIds : List Int64) (members : Members) :
    Raises NotAbsent (database.loadRegularUsers userIds members) := by
  have queries : ∀ error, NotAbsent (.sqlite error) := fun _ _ => nofun
  exact (Raises.traverse (fun _ => raises_queryMap queries _ _) _).bind fun _ =>
    (Raises.traverse (fun _ => raises_queryMap queries _ _) _).bind fun _ => raises_pure _

/-- That of the members of an open channel does not report one either. -/
theorem raises_loadOpenChannelUsers (channelId : Int64) (userIds : List Int64)
    (members : Members) :
    Raises NotAbsent (database.loadOpenChannelUsers channelId userIds members) := by
  have queries : ∀ error, NotAbsent (.sqlite error) := fun _ _ => nofun
  exact (Raises.traverse (fun _ => raises_queryMap queries _ _) _).bind fun _ => raises_pure _

/-- That of the user of the device reports none. -/
theorem raises_loadCurrentUser (channelId : Int64) (userIds : List Int64) :
    Raises NotAbsent (database.loadCurrentUser channelId userIds) := by
  have queries : ∀ error, NotAbsent (.sqlite error) := fun _ _ => nofun
  unfold loadCurrentUser
  split
  · refine Raises.bind (Raises.atSite ?_ _) fun _ => raises_pure _
    unfold getCurrentUser
    split
    · exact raises_pure _
    · exact raises_queryRow queries _ _
  · exact raises_pure _

/-- Collecting the members fails only for one that is missing. -/
theorem collectMembers_error {members : Members} {userIds : List Int64} {error : DbError}
    (failed : collectMembers members userIds = .error error) : NotAbsent error := by
  obtain ⟨before, userId, after, -, -, here⟩ := mapM_eq_error_iff.mp failed
  cases found : members userId with
  | none =>
      rw [found] at here
      cases here
      exact fun _ => nofun
  | some member =>
      rw [found] at here
      cases here

/-- So the whole lookup of members raises other errors only. -/
theorem raises_getUsersWithConnection (channelId : Int64) (userIds : List Int64) :
    Raises NotAbsent (database.getUsersWithConnection channelId userIds) := by
  have collected : ∀ members, Raises NotAbsent (ofExcept (collectMembers members userIds)) :=
    fun members => raises_ofExcept fun error => collectMembers_error
  refine (raises_hashSet _).bind fun uniqueIds =>
    (raises_loadCurrentUser database channelId uniqueIds).bind fun current => ?_
  dsimp only
  split
  · exact (raises_loadOpenChannelUsers database channelId _ current).bind collected
  · exact (raises_loadRegularUsers database _ current).bind collected

/-- The lookup of a channel raises other errors only. -/
theorem raises_getChannel (channelId : Int64) :
    Raises NotAbsent (database.getChannel serde channelId) := by
  have queries : ∀ error, NotAbsent (.sqlite error) := fun _ _ => nofun
  refine Raises.withConnection (fun _ _ => nofun) ?_
  refine ((raises_queryRow queries _ _).atSite _).bind fun room => Raises.bind ?_ fun _ =>
    raises_pure _
  unfold channelName
  split
  · exact ((raises_queryRow queries _ _).atSite _).bind fun _ => raises_pure _
  · split
    · exact raises_pure _
    · split
      · exact ((raises_getUsersWithConnection database channelId _).atSite _).bind fun _ =>
          raises_pure _
      · exact raises_pure _

/-- A message that cannot be assembled is reported as malformed. -/
theorem assembleMessage_error {row : MessageRow} {channel : Channel} {author : Option Member}
    {error : DbError} (failed : assembleMessage serde database row channel author = .error error) :
    NotAbsent error := by
  unfold assembleMessage at failed
  split at failed
  · cases parsed : parse serde (messageText serde database row) author row.messageId with
    | error message =>
        simp only [parsed, Except.mapError, bind, Except.bind, Except.error.injEq] at failed
        subst failed
        exact fun _ => nofun
    | ok payload => simp [parsed, Except.mapError, bind, Except.bind, pure, Except.pure] at failed
  · cases failed

/-- A snapshot hides an absent message and nothing else. -/
theorem raises_getMessageSnapshot (recurse : MessageRow → DbM Event) (channelId messageId : Int64) :
    Raises NotAbsent (getMessageSnapshot recurse channelId messageId) := by
  refine (raises_attempt _).bind fun outcome => ?_
  split
  · exact raises_pure _
  · exact raises_pure _
  · rename_i error notAbsent
    exact raises_throw fun messageId same => notAbsent messageId same

/-- What is absent among the messages a feed refers to is left out of it. -/
theorem raises_enrichFeed (recurse : MessageRow → DbM Event) (row : MessageRow)
    (value : FeedValue) (channel : Channel) (author : Option Member) :
    Raises NotAbsent (enrichFeed serde database recurse row value channel author) := by
  have snapshot := raises_getMessageSnapshot recurse row.channelId
  unfold enrichFeed
  split
  · split
    · exact raises_pure _
    · exact ((snapshot _).atSite _).bind fun _ => raises_pure _
  · split
    · exact raises_pure _
    · exact ((snapshot _).atSite _).bind fun _ => raises_pure _
  · exact (Raises.traverse snapshot _).bind fun _ => raises_pure _
  · exact raises_pure _

/-- A mapping never reports an absent message: its own lookups of messages
tolerate one. -/
theorem raises_mapMessage (fuel : Nat) (row : MessageRow) :
    Raises NotAbsent (mapMessage serde database fuel row) := by
  cases fuel with
  | zero => exact raises_outOfFuel
  | succ fuel =>
      refine (raises_attempt _).bind fun author =>
        ((raises_getChannel serde database row.channelId).atSite _).bind fun channel =>
          (raises_ofExcept fun error => assembleMessage_error serde database).bind fun event => ?_
      split
      · exact raises_pure _
      · unfold enrichEvent
        split
        · exact (raises_enrichFeed serde database _ row _ channel _).bind fun _ => raises_pure _
        · exact raises_pure _

end Errors

/-! ## Verdicts of a mapping -/

section Mapping

variable {serde : Serde} {database : Database} {world : World}

/-- The lookup of a member always comes to an end. -/
theorem returns_getUser (database : Database) (channelId userId : Int64) :
    Returns (database.getUser channelId userId) := by
  have regular : ∀ userIds members, Returns (database.loadRegularUsers userIds members) :=
    fun userIds members => (Returns.traverse (fun _ => returns_queryMap _ _) _).bind fun _ =>
      (Returns.traverse (fun _ => returns_queryMap _ _) _).bind fun _ => returns_pure _
  have openChannel : ∀ userIds members,
      Returns (database.loadOpenChannelUsers channelId userIds members) :=
    fun userIds members => (Returns.traverse (fun _ => returns_queryMap _ _) _).bind fun _ =>
      returns_pure _
  have current : ∀ userIds, Returns (database.loadCurrentUser channelId userIds) := by
    intro userIds
    unfold loadCurrentUser
    split
    · refine Returns.bind (Returns.atSite ?_ _) fun _ => returns_pure _
      unfold getCurrentUser
      split
      · exact returns_pure _
      · exact returns_queryRow _ _
    · exact returns_pure _
  have batch : ∀ userIds, Returns (database.getUsersWithConnection channelId userIds) := by
    intro userIds
    refine (returns_hashSet _).bind fun uniqueIds => (current uniqueIds).bind fun loaded => ?_
    dsimp only
    split
    · exact (openChannel _ loaded).bind fun _ => returns_ofExcept _
    · exact (regular _ loaded).bind fun _ => returns_ofExcept _
  refine Returns.bind ?_ fun members => ?_
  · exact (batch [userId]).withConnection
  · split
    · exact returns_pure _
    · exact returns_throw _

/-- The author lookup never stops a mapping. -/
theorem author_result (database : Database) (row : MessageRow) (world : World) :
    ∃ author, (attempt (atSite .author (database.getUser row.channelId row.userId))
      world).result = some (.ok author) := by
  have returned := returns_getUser database row.channelId row.userId (world.below .author)
  obtain ⟨author, result⟩ := Option.isSome_iff_exists.mp returned
  refine ⟨author, ?_⟩
  rw [attempt_result, atSite_result, result]
  rfl

/-- A traversal of one item succeeds exactly if its call does. -/
theorem verdict_traverse_singleton {α β : Type} {site : Nat → Site} {call : α → DbM β} {item : α} :
    verdict (traverse site call [item] world).result =
      verdict (call item (world.below (site 0))).result := by
  rw [DbM.traverse, verdict_traverseFrom, List.zipIdx_cons, List.zipIdx_nil, searchAll]
  rcases (call item (world.below (site 0))).result with _ | error | value
  · rfl
  · rfl
  · rfl

/-- A snapshot fails where the lookup of its message does, other than for its absence. -/
theorem verdict_snapshot_messages (recurse : MessageRow → DbM Event)
    (channelId messageId : Int64) :
    verdict (getMessageSnapshot recurse channelId messageId world).result =
      match (getMessages recurse channelId [messageId] world).result with
      | some (.error (.messageNotFound _)) => some true
      | result => verdict result := by
  rcases events : (getMessages recurse channelId [messageId] world).result with _ | error | found
  · have attempted : (attempt (getMessage recurse channelId messageId) world).result = none := by
      rw [attempt_result, getMessage, bind_result_of_none events]
      rfl
    rw [getMessageSnapshot, bind_result_of_none attempted]
    rfl
  · have attempted : (attempt (getMessage recurse channelId messageId) world).result =
        some (.ok (.error error)) := by
      rw [attempt_result, getMessage, bind_result_of_error events]
      rfl
    rw [getMessageSnapshot, bind_result_of_ok attempted]
    cases error <;> rfl
  · have attempted : (attempt (getMessage recurse channelId messageId) world).result =
        some (.ok ((found.head?.map .ok).getD (.error (.messageNotFound messageId)))) := by
      rw [attempt_result, getMessage, bind_result_of_ok events]
      rcases found with _ | ⟨event, rest⟩
      · rfl
      · rfl
    rw [getMessageSnapshot, bind_result_of_ok attempted]
    rcases found with _ | ⟨event, rest⟩
    · rfl
    · rfl

/-- A snapshot maps the rows found; no row is no failure. -/
theorem verdict_getMessageSnapshot {recurse : MessageRow → DbM Event}
    (present : ∀ row, Raises NotAbsent (recurse row)) (channelId messageId : Int64) :
    verdict (getMessageSnapshot recurse channelId messageId world).result =
      match (getMessageRows channelId [messageId] world).result with
      | none => none
      | some (.error (.messageNotFound _)) => some true
      | some (.error _) => some false
      | some (.ok rows) => verdict (traverse .message recurse rows world).result := by
  rw [verdict_snapshot_messages, getMessages]
  rcases rows : (getMessageRows channelId [messageId] world).result with _ | error | found
  · rw [bind_result_of_none rows]
    rfl
  · rw [bind_result_of_error rows]
    cases error <;> rfl
  · rw [bind_result_of_ok rows]
    change _ = verdict (traverse .message recurse found world).result
    rcases mapped : (traverse .message recurse found world).result with _ | error | values
    · rfl
    · cases error with
      | messageNotFound absent =>
          exact absurd rfl (Raises.traverse present found world _ mapped absent)
      | _ => rfl
    · rfl

/-- Completing a feed is the search through its snapshots. -/
theorem verdict_enrichFeed (recurse : MessageRow → DbM Event) (row : MessageRow)
    (value : FeedValue) (channel : Channel) (author : Option Member) :
    verdict (enrichFeed serde database recurse row value channel author world).result =
      searchAll (fun numbered : Int64 × Nat =>
          verdict (getMessageSnapshot recurse row.channelId numbered.1
            (world.below (.snapshot numbered.2))).result)
        (targetIds row value).zipIdx := by
  have one : ∀ messageId, searchAll (fun numbered : Int64 × Nat =>
      verdict (getMessageSnapshot recurse row.channelId numbered.1
        (world.below (.snapshot numbered.2))).result) [messageId].zipIdx =
      verdict (atSite (.snapshot 0) (getMessageSnapshot recurse row.channelId messageId)
        world).result := by
    intro messageId
    simp only [List.zipIdx_cons, List.zipIdx_nil, searchAll, atSite_result]
    rcases (getMessageSnapshot recurse row.channelId messageId
      (world.below (.snapshot 0))).result with _ | error | snapshot
    · rfl
    · rfl
    · rfl
  cases value with
  | messageDeleted deleted =>
      by_cases own : deleted.messageId = row.messageId
      · simp only [enrichFeed, targetIds, own, if_true]
        rfl
      · simp only [enrichFeed, targetIds, own, if_false, one]
        exact verdict_bind_pure
  | messageChanged changed =>
      by_cases own : changed.messageId = row.messageId
      · simp only [enrichFeed, targetIds, own, if_true]
        rfl
      · simp only [enrichFeed, targetIds, own, if_false, one]
        exact verdict_bind_pure
  | messageHidden hidden =>
      rw [enrichFeed, targetIds, verdict_bind_pure]
      exact verdict_traverseFrom 0 _
  | _ => rfl

/-- One level of the recursion: the channel, then the rows the content refers to. -/
theorem verdict_mapMessage (fuel : Nat) (row : MessageRow) :
    verdict (mapMessage serde database (fuel + 1) row world).result =
      match verdict (database.getChannel serde row.channelId (world.below .channel)).result with
      | some true =>
          match references serde database row with
          | none => some false
          | some ids =>
              searchAll (fun numbered : Int64 × Nat =>
                  verdict (getMessageSnapshot (mapMessage serde database fuel) row.channelId
                    numbered.1 (world.below (.snapshot numbered.2))).result)
                ids.zipIdx
      | failed => failed := by
  obtain ⟨author, authorLookup⟩ := author_result database row world
  rw [mapMessage, mapMessageBody, bind_result_of_ok authorLookup]
  rcases channelResult : (database.getChannel serde row.channelId
    (world.below .channel)).result with _ | error | channel
  · have channelLookup : (atSite .channel (database.getChannel serde row.channelId)
        world).result = none := channelResult
    rw [bind_result_of_none channelLookup]
    rfl
  · have channelLookup : (atSite .channel (database.getChannel serde row.channelId)
        world).result = some (.error error) := channelResult
    rw [bind_result_of_error channelLookup]
    rfl
  · have channelLookup : (atSite .channel (database.getChannel serde row.channelId)
        world).result = some (.ok channel) := channelResult
    rw [bind_result_of_ok channelLookup]
    by_cases feed : row.messageType = 0
    · simp only [references, feed, ne_eq, not_true_eq_false, if_false, verdict_ok]
      cases parsed : parse serde (messageText serde database row) none row.messageId with
      | error message =>
          rw [assembleMessage_of_error feed parsed, bind_result_of_error (ofExcept_result _)]
          rfl
      | ok payload =>
          rw [assembleMessage_of_ok feed parsed, bind_result_of_ok (ofExcept_result _)]
          obtain ⟨value⟩ := payload
          cases value with
          | none => rfl
          | some value =>
              simp only [enrichEvent, Option.map_some, Option.getD_some]
              rw [verdict_bind_pure, verdict_enrichFeed, targetIds_withAuthor]
    · simp only [references, assembleMessage, feed, ne_eq, not_false_eq_true, if_true, if_false,
        verdict_ok]
      rw [bind_result_of_ok (ofExcept_result _)]
      rfl

end Mapping

end Arisa.Database
