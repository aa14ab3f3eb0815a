import Arisa.Database.Termination

/-!
# Which missing data a mapping tolerates

An absent author or an absent referenced message leaves its field empty. The name
of the channel and the content of the messages referred to are not tolerated in
this way: each of them can make the whole mapping fail.
-/

namespace Arisa.Database

open Arisa.Crypto Arisa.Proto Arisa.Semantics Arisa.Std DbM

variable {serde : Serde} {database : Database} {tables : Tables} {world : World}

/-- The parts of a mapping that returned an event. -/
theorem mapMessage_eq_ok {fuel : Nat} {row : MessageRow} {event : Event} :
    (mapMessage serde database (fuel + 1) row world).result = some (.ok event) ↔
      ∃ author channel assembled,
        (attempt (atSite .author (database.getUser row.channelId row.userId)) world).result =
          some (.ok author) ∧
        (atSite .channel (database.getChannel serde row.channelId) world).result =
          some (.ok channel) ∧
        assembleMessage serde database row channel author.toOption = .ok assembled ∧
        ((if row.messageType ≠ 0 then return assembled
          else enrichEvent serde database (mapMessage serde database fuel) row channel
            author.toOption assembled : DbM Event) world).result = some (.ok event) := by
  rw [mapMessage, mapMessageBody, bind_result_eq_ok]
  simp only [bind_result_eq_ok, ofExcept_result, Option.some.injEq]
  constructor
  · rintro ⟨author, authorResult, channel, channelResult, assembled, content, rest⟩
    exact ⟨author, channel, assembled, authorResult, channelResult, content, rest⟩
  · rintro ⟨author, channel, assembled, authorResult, channelResult, content, rest⟩
    exact ⟨author, authorResult, channel, channelResult, assembled, content, rest⟩

/-- The author an event carries. -/
def eventAuthor (event : Event) : Option Member :=
  match event.value with
  | some (.message message) => message.author
  | some (.feed feed) => feed.author
  | none => none

/-- The message embedded in the feed of an event, for the feeds with one target. -/
def embeddedMessage (event : Event) : Option MessageEvent :=
  match event.value with
  | some (.feed ⟨_, some ⟨some (.messageDeleted deleted)⟩, _⟩) => deleted.previousMessage
  | some (.feed ⟨_, some ⟨some (.messageChanged changed)⟩, _⟩) => changed.message
  | _ => none

/-- The message that a deleted or changed feed is about. -/
def feedTarget (event : Event) : Option Int64 :=
  match event.value with
  | some (.feed ⟨_, some ⟨some (.messageDeleted deleted)⟩, _⟩) => some deleted.messageId
  | some (.feed ⟨_, some ⟨some (.messageChanged changed)⟩, _⟩) => some changed.messageId
  | _ => none

/-- The fields of what could not be found are empty. -/
structure AbsentLeftEmpty (serde : Serde) (database : Database) (tables : Tables) (world : World)
    (row : MessageRow) (event : Event) : Prop where
  author : ∀ error, (database.getUser row.channelId row.userId (world.below .author)).result =
    some (.error error) → eventAuthor event = none
  message : (∀ ids, references serde database row = some ids → ∀ messageId ∈ ids,
    lookup tables row.channelId messageId = .missing) → embeddedMessage event = none

/-- The author is put in whatever is assembled. -/
theorem assembleMessage_author {row : MessageRow} {channel : Channel} {author : Option Member}
    {assembled : Event} (content : assembleMessage serde database row channel author =
      .ok assembled) : eventAuthor assembled = author := by
  unfold assembleMessage at content
  split at content
  · simp only [bind_eq_ok] at content
    obtain ⟨payload, -, returned⟩ := content
    cases returned
    rfl
  · cases content
    rfl

/-- Completing a feed keeps its author. -/
theorem enrichEvent_author {recurse : MessageRow → DbM Event} {row : MessageRow}
    {channel : Channel} {author : Option Member} {assembled event : Event}
    (completed : (enrichEvent serde database recurse row channel author assembled world).result =
      some (.ok event)) : eventAuthor event = eventAuthor assembled := by
  obtain ⟨value⟩ := assembled
  rcases value with _ | (message | ⟨feedChannel, payload, feedAuthor⟩)
  · cases completed
    rfl
  · cases completed
    rfl
  · rcases payload with _ | ⟨_ | value⟩
    · cases completed
      rfl
    · cases completed
      rfl
    · obtain ⟨enriched, -, returned⟩ := bind_result_eq_ok.mp completed
      cases returned
      rfl

/-! ## What a feed comes to embed -/

section Enrichment

variable {recurse : MessageRow → DbM Event} {row : MessageRow}

/-- What a feed about one message comes to embed. -/
inductive Embeds (recurse : MessageRow → DbM Event) (row : MessageRow) (world : World)
    (messageId : Int64) : Option MessageEvent → Prop where
  | own (same : messageId = row.messageId) : Embeds recurse row world messageId none
  | other {snapshot : Option MessageEvent} (different : messageId ≠ row.messageId)
      (taken : (getMessageSnapshot recurse row.channelId messageId
        (world.below (.snapshot 0))).result = some (.ok snapshot)) :
      Embeds recurse row world messageId snapshot

/-- What `enrich_feed` makes of a feed. -/
inductive Enriches (serde : Serde) (database : Database) (recurse : MessageRow → DbM Event)
    (row : MessageRow) (channel : Channel) (author : Option Member) (world : World) :
    FeedValue → FeedValue → Prop where
  | deleted {deleted : FeedMessageDeleted} {snapshot : Option MessageEvent}
      (embeds : Embeds recurse row world deleted.messageId snapshot) :
      Enriches serde database recurse row channel author world (.messageDeleted deleted)
        (.messageDeleted { deleted with previousMessage := snapshot })
  | changed {changed : FeedMessageChanged} {snapshot : Option MessageEvent}
      (embeds : Embeds recurse row world changed.messageId snapshot) :
      Enriches serde database recurse row channel author world (.messageChanged changed)
        (.messageChanged { changed with message := snapshot })
  | hidden {hidden : FeedMessageHidden} {found : List (Option MessageEvent)}
      (taken : (traverse .snapshot (getMessageSnapshot recurse row.channelId)
        (hidden.messageIds.filter fun messageId => messageId ≠ row.messageId) world).result =
          some (.ok found)) :
      Enriches serde database recurse row channel author world (.messageHidden hidden)
        (.messageHidden { hidden with
          previousMessages := mergeHidden serde database row channel author hidden.messageIds
            (found.filterMap id) })
  | kept {value : FeedValue} (noTarget : ∀ feedChannel feedAuthor,
      feedTarget ⟨some (.feed ⟨feedChannel, some ⟨some value⟩, feedAuthor⟩)⟩ = none) :
      Enriches serde database recurse row channel author world value value

/-- An enriched feed has, at each place of a snapshot, what was looked up for it. -/
theorem enrichFeed_eq_ok {value enriched : FeedValue} {channel : Channel} {author : Option Member}
    (completed : (enrichFeed serde database recurse row value channel author world).result =
      some (.ok enriched)) :
    Enriches serde database recurse row channel author world value enriched := by
  cases value with
  | messageDeleted deleted =>
      by_cases own : deleted.messageId = row.messageId
      · simp only [enrichFeed, own, if_true] at completed
        cases completed
        exact own ▸ .deleted (.own own)
      · simp only [enrichFeed, own, if_false] at completed
        obtain ⟨snapshot, taken, returned⟩ := bind_result_eq_ok.mp completed
        cases returned
        exact .deleted (.other own taken)
  | messageChanged changed =>
      by_cases own : changed.messageId = row.messageId
      · simp only [enrichFeed, own, if_true] at completed
        cases completed
        exact own ▸ .changed (.own own)
      · simp only [enrichFeed, own, if_false] at completed
        obtain ⟨snapshot, taken, returned⟩ := bind_result_eq_ok.mp completed
        cases returned
        exact .changed (.other own taken)
  | messageHidden hidden =>
      obtain ⟨found, taken, returned⟩ := bind_result_eq_ok.mp completed
      cases returned
      exact .hidden taken
  | _ =>
      cases completed
      exact .kept fun _ _ => rfl

/-- Only a feed about one message embeds it. -/
theorem embeddedMessage_of_noTarget {event : Event} (noTarget : feedTarget event = none) :
    embeddedMessage event = none := by
  unfold feedTarget at noTarget
  unfold embeddedMessage
  split at noTarget
  · cases noTarget
  · cases noTarget
  · rfl

end Enrichment

/-- A snapshot of a message that is not there is empty. -/
theorem snapshot_of_missing (still : world.Still tables) {fuel : Nat} {channelId messageId : Int64}
    (missing : lookup tables channelId messageId = .missing) {snapshot : Option MessageEvent}
    (taken : (getMessageSnapshot (mapMessage serde database fuel) channelId messageId
      world).result = some (.ok snapshot)) : snapshot = none := by
  obtain ⟨outcome, rows, found⟩ := @getMessageRows_result _ _ channelId still messageId
  simp only [missing] at found
  subst found
  have events : (getMessages (mapMessage serde database fuel) channelId [messageId]
      world).result = some (.error (.messageNotFound messageId)) :=
    bind_result_of_error rows
  have attempted : (attempt (getMessage (mapMessage serde database fuel) channelId messageId)
      world).result = some (.ok (.error (.messageNotFound messageId))) := by
    rw [attempt_result, getMessage, bind_result_of_error events]
    rfl
  rw [getMessageSnapshot, bind_result_of_ok attempted] at taken
  cases taken
  rfl

/-- The row's own message and one that is missing leave their place empty. -/
theorem Embeds.eq_none (still : world.Still tables) {fuel : Nat} {row : MessageRow}
    {messageId : Int64} {snapshot : Option MessageEvent}
    (embeds : Embeds (mapMessage serde database fuel) row world messageId snapshot)
    (missing : messageId ≠ row.messageId → lookup tables row.channelId messageId = .missing) :
    snapshot = none := by
  cases embeds with
  | own same => rfl
  | other different taken =>
      exact snapshot_of_missing (still.below (.snapshot 0)) (missing different) taken

/-- The message embedded by `enrich_feed`, when no target is there. -/
theorem enrichFeed_missing (still : world.Still tables) {fuel : Nat} {row : MessageRow}
    {value enriched : FeedValue} {channel : Channel} {author : Option Member}
    {eventChannel : Option Channel} {feedAuthor : Option Member}
    (missing : ∀ messageId ∈ targetIds row value,
      lookup tables row.channelId messageId = .missing)
    (completed : (enrichFeed serde database (mapMessage serde database fuel) row value channel
      author world).result = some (.ok enriched)) :
    embeddedMessage ⟨some (.feed ⟨eventChannel, some ⟨some enriched⟩, feedAuthor⟩)⟩ = none := by
  cases enrichFeed_eq_ok completed with
  | deleted embeds =>
      exact embeds.eq_none still fun other => missing _ (by simp [targetIds, other])
  | changed embeds =>
      exact embeds.eq_none still fun other => missing _ (by simp [targetIds, other])
  | hidden taken => rfl
  | kept noTarget => exact embeddedMessage_of_noTarget (noTarget eventChannel feedAuthor)

/-- The message embedded in an event, when none of the row's references is there. -/
theorem embedded_missing (still : world.Still tables) {fuel : Nat} {row : MessageRow}
    {channel : Channel} {author : Option Member} {assembled event : Event}
    (missing : ∀ ids, references serde database row = some ids → ∀ messageId ∈ ids,
      lookup tables row.channelId messageId = .missing)
    (content : assembleMessage serde database row channel author = .ok assembled)
    (rest : ((if row.messageType ≠ 0 then return assembled
      else enrichEvent serde database (mapMessage serde database fuel) row channel author
        assembled : DbM Event) world).result = some (.ok event)) :
    embeddedMessage event = none := by
  by_cases feed : row.messageType = 0
  · simp only [feed, ne_eq, not_true_eq_false, if_false] at rest
    cases parsed : parse serde (messageText serde database row) none row.messageId with
    | error message =>
        rw [assembleMessage_of_error feed parsed] at content
        cases content
    | ok payload =>
        rw [assembleMessage_of_ok feed parsed] at content
        cases content
        have refers : references serde database row =
            some ((payload.value.map (targetIds row)).getD []) := by
          simp [references, feed, parsed]
        obtain ⟨value⟩ := payload
        cases value with
        | none =>
            cases rest
            rfl
        | some value =>
            obtain ⟨enriched, completed, returned⟩ := bind_result_eq_ok.mp rest
            cases returned
            refine enrichFeed_missing still ?_ completed
            rw [targetIds_withAuthor]
            exact missing _ refers
  · simp only [feed, ne_eq, not_false_eq_true, if_true] at rest
    rw [assembleMessage, if_neg feed] at content
    cases content
    cases rest
    rfl

/-- So a mapped event has an empty place for each message that is missing. -/
theorem absentLeftEmpty (still : world.Still tables) {fuel : Nat} {row : MessageRow}
    {event : Event}
    (mapped : (mapMessage serde database fuel row world).result = some (.ok event)) :
    AbsentLeftEmpty serde database tables world row event := by
  cases fuel with
  | zero => cases mapped
  | succ fuel =>
      obtain ⟨author, channel, assembled, authorResult, -, content, rest⟩ :=
        mapMessage_eq_ok.mp mapped
      constructor
      · intro error failed
        rw [attempt_result, atSite_result, failed] at authorResult
        cases authorResult
        have assembledAuthor := assembleMessage_author content
        split at rest
        · cases rest
          exact assembledAuthor
        · rw [enrichEvent_author rest, assembledAuthor]
          rfl
      · exact fun missing => embedded_missing still missing content rest

/-- A channel has one first row. -/
theorem hasRoom_unique {channelId : Int64} {room other : RoomRow}
    (left : HasRoom tables channelId room) (right : HasRoom tables channelId other) :
    room = other := by
  obtain ⟨row, first, read⟩ := left
  obtain ⟨otherRow, otherFirst, otherRead⟩ := right
  cases first.symm.trans otherFirst
  cases read.symm.trans otherRead
  rfl

/-- A row whose own content maps refers to known messages. -/
theorem references_of_content {row : MessageRow}
    (contentMaps : row.messageType ≠ 0 ∨ ∃ payload,
      parse serde (messageText serde database row) none row.messageId = .ok payload) :
    ∃ ids, references serde database row = some ids := by
  by_cases feed : row.messageType = 0
  · obtain ⟨payload, parsed⟩ := contentMaps.resolve_left (by simp [feed])
    exact ⟨(payload.value.map (targetIds row)).getD [], by simp [references, feed, parsed]⟩
  · exact ⟨[], by simp [references, feed]⟩

/-- Nothing malformed is reachable from a row exactly when none is from its targets. -/
theorem not_fails_found_iff {row : MessageRow} {ids : List Int64}
    (refers : references serde database row = some ids) :
    ¬ Fails (visit serde database tables) (.found row) ↔
      ∀ messageId ∈ ids,
        ¬ Fails (visit serde database tables) (lookup tables row.channelId messageId) := by
  have visited : visit serde database tables (.found row) =
      some (ids.map (lookup tables row.channelId)) := by rw [visit, refers]; rfl
  constructor
  · intro sound messageId member fails
    exact sound (.through visited (List.mem_map_of_mem member) fails)
  · intro sound fails
    cases fails with
    | here malformed =>
        rw [visited] at malformed
        cases malformed
    | through again member fails =>
        rw [visited] at again
        cases again
        obtain ⟨messageId, asked, rfl⟩ := List.mem_map.mp member
        exact sound messageId asked fails

/-- For a row with a decodable channel whose own content maps, and whose mapping
ends, the mapping succeeds exactly when the channel's name can be looked up and no
row that the feed leads to is undecodable or does not parse. -/
theorem mapMessage_ok_iff (serde : Serde) (database : Database) {tables : Tables} {world : World}
    (still : world.Still tables) (row : MessageRow) {room : RoomRow}
    (hasRoom : HasRoom tables row.channelId room)
    (contentMaps : row.messageType ≠ 0 ∨ ∃ payload,
      parse serde (messageText serde database row) none row.messageId = .ok payload)
    (ends : ∃ fuel, (mapMessage serde database fuel row world).result.isSome) :
    (∃ fuel event, (mapMessage serde database fuel row world).result = some (.ok event) ∧
        AbsentLeftEmpty serde database tables world row event) ↔
      NameAvailable serde database tables row.channelId room ∧
        ∀ ids, references serde database row = some ids → ∀ messageId ∈ ids,
          ¬ Fails (visit serde database tables) (lookup tables row.channelId messageId) := by
  obtain ⟨ids, refers⟩ := references_of_content contentMaps
  simp only [refers, Option.some.injEq, forall_eq', ← not_fails_found_iff refers]
  constructor
  · rintro ⟨fuel, event, mapped, -⟩
    have succeeded : verdict (mapMessage serde database fuel row world).result = some true :=
      verdict_eq_true.mpr ⟨event, mapped⟩
    have available : ChannelAvailable serde database tables row.channelId := by
      by_contra unavailable
      cases fuel with
      | zero => cases mapped
      | succ fuel =>
          rw [verdict_mapMessage_unavailable still unavailable] at succeeded
          cases succeeded
    obtain ⟨other, otherRoom, name⟩ := available
    refine ⟨hasRoom_unique otherRoom hasRoom ▸ name, ?_⟩
    exact (search_verdict (search_of_verdict ⟨other, otherRoom, name⟩ rfl still succeeded)).mp rfl
  · rintro ⟨name, sound⟩
    obtain ⟨fuel, ended⟩ := ends
    rw [← isSome_verdict, Option.isSome_iff_exists] at ended
    obtain ⟨outcome, found⟩ := ended
    have explored := search_of_verdict ⟨room, hasRoom, name⟩ rfl still found
    have succeeded : outcome = true := (search_verdict explored).mpr sound
    subst succeeded
    obtain ⟨event, mapped⟩ := verdict_eq_true.mp found
    exact ⟨fuel, event, mapped, absentLeftEmpty still mapped⟩

/-! ## A channel without its open link -/

def textRow : MessageRow :=
  ⟨1, 1, 1, 7, 100, some "hello!", none, none, none, 1⟩

/-- The tables of a text message in a channel. -/
def textTables (room : ChatRoom) : Tables where
  chatLogs := [⟨1, .integer 1, .integer 1, .integer 7, .integer 100, .text "hello!", .null, .null,
    .null, .integer 1⟩]
  chatRooms := [room]
  openLinks := []
  openProfiles := []
  openChatMembers := []
  users := []
  friends := []
  primaryKey := by decide

/-- A plain text refers to no message. -/
theorem references_textRow : references feedSerde plainDatabase textRow = some [] := rfl

/-- A text message ends, whatever its channel. -/
theorem textRow_ends (room : ChatRoom) : ∃ fuel, (mapMessage feedSerde plainDatabase fuel textRow
    (World.steady (textTables room))).result.isSome := by
  have still := World.steady_still (textTables room)
  by_cases available : ChannelAvailable feedSerde plainDatabase (textTables room) 7
  · refine (mapMessage_ends_iff_search still available).mpr ⟨1, ?_⟩
    rw [search, visit, references_textRow]
    rfl
  · refine ⟨1, ?_⟩
    rw [← isSome_verdict, verdict_mapMessage_unavailable still available]
    rfl

def openRoom : ChatRoom :=
  ⟨.integer 7, .text "OM", .null, .null, .null, .integer 5, .null⟩

/-- The open link of the channel has no row: its messages are all suppressed. -/
theorem missingOpenLink_suppresses :
    HasRoom (textTables openRoom) textRow.channelId ⟨"OM", none, none, none⟩ ∧
    textRow.messageType ≠ 0 ∧
    (∃ fuel, (mapMessage feedSerde plainDatabase fuel textRow
      (World.steady (textTables openRoom))).result.isSome) ∧
    ¬ ∃ fuel event, (mapMessage feedSerde plainDatabase fuel textRow
      (World.steady (textTables openRoom))).result = some (.ok event) := by
  have room : HasRoom (textTables openRoom) 7 ⟨"OM", none, none, none⟩ := ⟨openRoom, rfl, rfl⟩
  have unavailable : ¬ ChannelAvailable feedSerde plainDatabase (textTables openRoom) 7 := by
    rintro ⟨other, otherRoom, name⟩
    cases hasRoom_unique otherRoom room
    rw [NameAvailable, if_pos rfl] at name
    obtain ⟨link, first, -⟩ := name
    cases first
  refine ⟨room, by decide, textRow_ends openRoom, ?_⟩
  rintro ⟨fuel, event, mapped⟩
  cases fuel with
  | zero => cases mapped
  | succ fuel =>
      have failed : verdict (mapMessage feedSerde plainDatabase (fuel + 1) textRow
          (World.steady (textTables openRoom))).result = some false :=
        verdict_mapMessage_unavailable (World.steady_still (textTables openRoom)) unavailable
      rw [mapped] at failed
      cases failed

/-- The same message in a channel that needs no link. -/
theorem mapMessage_ok_plain : ∃ fuel event, (mapMessage feedSerde plainDatabase fuel textRow
    (World.steady (textTables plainRoom))).result = some (.ok event) ∧
    AbsentLeftEmpty feedSerde plainDatabase (textTables plainRoom)
      (World.steady (textTables plainRoom)) textRow event := by
  have room : HasRoom (textTables plainRoom) textRow.channelId ⟨"MultiChat", none, none, none⟩ :=
    ⟨plainRoom, rfl, rfl⟩
  refine (mapMessage_ok_iff feedSerde plainDatabase (World.steady_still (textTables plainRoom))
    textRow room (.inl (by decide)) (textRow_ends plainRoom)).mpr ⟨by simp [NameAvailable], ?_⟩
  intro ids refers messageId asked
  rw [references_textRow] at refers
  cases refers
  cases asked

end Arisa.Database
