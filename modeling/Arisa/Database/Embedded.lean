import Arisa.Database.Tolerance
import Arisa.Std.Upsert

/-!
# Messages embedded in feeds

A message that a feed embeds belongs to the channel of the row and is one the
feed names. This holds in every world, also when the tables change while a row is
mapped.
-/

namespace Arisa.Database

open Arisa.Crypto Arisa.Proto Arisa.Std DbM

variable {serde : Serde} {database : Database} {world : World}

/-! ## Rows and channels asked for -/

/-- The values of a query were read from rows that it selects. -/
theorem queryMap_eq_ok {α β : Type} {select : Tables → List α} {read : α → Except SqliteError β}
    {values : List β} (returned : (queryMap select read world).result = some (.ok values)) :
    ∀ value ∈ values, ∃ row ∈ select (world []).tables, read row = .ok value := by
  intro value member
  rw [queryMap, Option.some.injEq, mapError_eq_ok] at returned
  obtain ⟨row, listed, here⟩ := exists_item_of_mem returned member
  cases row with
  | error error => cases here
  | ok row =>
      refine ⟨row, ?_, here⟩
      unfold selected at listed
      split at listed
      · simpa using listed
      · obtain ⟨other, among, same⟩ := List.mem_map.mp ((List.mem_append.mp listed).resolve_right
          (by simp))
        cases same
        exact List.mem_of_mem_take among

/-- A row read for a channel is a row of the channel. -/
theorem selectMessages_channel {channelId : Int64} {messageIds : List Int64} {tables : Tables}
    {log : ChatLog} {row : MessageRow} (selected : log ∈ selectMessages channelId messageIds tables)
    (read : readMessage log = .ok row) : row.channelId = channelId := by
  obtain ⟨-, keys⟩ := List.mem_filter.mp selected
  rw [Bool.and_eq_true, (readMessage_keys read).2.2, SqlValue.integer_equals_integer] at keys
  exact keys.1

/-- What is returned over a pooled connection was returned by the operation itself. -/
theorem withConnection_eq_ok {α : Type} {body : DbM α} {value : α}
    (returned : (withConnection body world).result = some (.ok value)) :
    (body world).result = some (.ok value) := by
  unfold withConnection at returned
  split at returned
  · cases returned
  · exact returned

/-- Each row stands at the position of the id it was asked for, and is of the channel. -/
theorem loadMessageRows_keys {channelId : Int64} {messageIds uniqueIds : List Int64}
    {rows : List MessageRow}
    (returned : (loadMessageRows channelId messageIds uniqueIds world).result = some (.ok rows)) :
    List.Forall₂ (fun messageId (row : MessageRow) =>
      row.channelId = channelId ∧ row.messageId = messageId) messageIds rows := by
  obtain ⟨chunks, queried, collected⟩ := bind_result_eq_ok.mp returned
  have inChannel : ∀ row ∈ chunks.flatten, row.channelId = channelId := by
    intro row member
    obtain ⟨chunk, among, inside⟩ := List.mem_flatten.mp member
    obtain ⟨index, bound, rfl⟩ := List.getElem_of_mem among
    have each := traverseFrom_eq_ok.mp queried
    have here := each.get (each.length_eq ▸ bound) bound
    obtain ⟨log, selected, read⟩ := queryMap_eq_ok here _ inside
    exact selectMessages_channel selected read
  rw [ofExcept_result, Option.some.injEq, mapM_eq_ok_iff] at collected
  refine collected.imp fun messageId row here => ?_
  rw [indexRows_eq_latest] at here
  cases found : latest MessageRow.messageId chunks.flatten messageId with
  | none =>
      rw [found] at here
      cases here
  | some other =>
      rw [found] at here
      cases here
      obtain ⟨member, same⟩ := List.mem_filter.mp (List.mem_of_getLast? found)
      exact ⟨inChannel row member, of_decide_eq_true same⟩

/-- The rows returned are those of the channel with the ids asked for. -/
theorem getMessageRows_keys {channelId : Int64} {messageIds : List Int64} {rows : List MessageRow}
    (returned : (getMessageRows channelId messageIds world).result = some (.ok rows)) :
    List.Forall₂ (fun messageId (row : MessageRow) =>
      row.channelId = channelId ∧ row.messageId = messageId) messageIds rows := by
  unfold getMessageRows at returned
  split at returned
  · rename_i empty
    cases returned
    rw [List.isEmpty_iff.mp empty]
    exact .nil
  · obtain ⟨uniqueIds, -, loaded⟩ := bind_result_eq_ok.mp (withConnection_eq_ok returned)
    exact loadMessageRows_keys loaded

/-- The channel returned is the one asked for. -/
theorem getChannel_id {channelId : Int64} {channel : Channel}
    (returned : (database.getChannel serde channelId world).result = some (.ok channel)) :
    channel.id = channelId := by
  obtain ⟨room, -, rest⟩ := bind_result_eq_ok.mp (withConnection_eq_ok returned)
  obtain ⟨name, -, built⟩ := bind_result_eq_ok.mp rest
  cases built
  rfl

/-! ## Snapshots -/

/-- The message is the one with the id in the channel. -/
def BelongsTo (channelId messageId : Int64) (message : MessageEvent) : Prop :=
  message.messageId = messageId ∧ ∃ channel, message.channel = some channel ∧
    channel.id = channelId

/-- What a feed about one message embeds: nothing of its own row, else that message. -/
structure SnapshotFits (row : MessageRow) (messageId : Int64) (snapshot : Option MessageEvent) :
    Prop where
  own : messageId = row.messageId → snapshot = none
  belongs : ∀ message, snapshot = some message → BelongsTo row.channelId messageId message

/-- A snapshot that is absent claims nothing. -/
theorem snapshotFits_none (row : MessageRow) (messageId : Int64) :
    SnapshotFits row messageId none where
  own _ := rfl
  belongs := by
    intro message found
    cases found

/-- The messages embedded in a feed are messages of the channel that the feed names. -/
def FeedFits (row : MessageRow) : FeedValue → Prop
  | .messageDeleted deleted => SnapshotFits row deleted.messageId deleted.previousMessage
  | .messageChanged changed => SnapshotFits row changed.messageId changed.message
  | .messageHidden hidden =>
      ∀ message ∈ hidden.previousMessages, ∃ messageId ∈ hidden.messageIds,
        BelongsTo row.channelId messageId message
  | _ => True

/-- An event is about its row, and so is what it embeds. -/
def Fits (row : MessageRow) (event : Event) : Prop :=
  match event.value with
  | some (.message message) => BelongsTo row.channelId row.messageId message
  | some (.feed ⟨_, some ⟨some value⟩, _⟩) => FeedFits row value
  | _ => True

/-- The message a snapshot takes out of an event is the one asked for. -/
theorem snapshotOf_fits {row : MessageRow} {event : Event} {message : MessageEvent}
    (fits : Fits row event) (taken : snapshotOf row.messageId event = some message) :
    BelongsTo row.channelId row.messageId message := by
  obtain ⟨value⟩ := event
  rcases value with _ | (own | ⟨channel, payload, author⟩)
  · cases taken
  · cases taken
    exact fits
  · rcases payload with _ | ⟨_ | value⟩
    · cases taken
    · cases taken
    · cases value with
      | messageHidden hidden =>
          have found : hidden.previousMessages.find? (fun message =>
              message.messageId = row.messageId) = some message := taken
          have same : message.messageId = row.messageId := by simpa using List.find?_some found
          obtain ⟨messageId, -, -, inChannel⟩ := fits message (List.mem_of_find?_eq_some found)
          exact ⟨same, inChannel⟩
      | _ => cases taken

/-- A message embedded as a snapshot was taken out of the event of the row asked for. -/
theorem getMessageSnapshot_eq_some {recurse : MessageRow → DbM Event} {channelId messageId : Int64}
    {message : MessageEvent}
    (taken : (getMessageSnapshot recurse channelId messageId world).result =
      some (.ok (some message))) :
    ∃ row event, row.channelId = channelId ∧ row.messageId = messageId ∧
      (recurse row (world.below (.message 0))).result = some (.ok event) ∧
      snapshotOf messageId event = some message := by
  obtain ⟨outcome, attempted, rest⟩ := bind_result_eq_ok.mp taken
  rw [attempt_result, Option.map_eq_some_iff] at attempted
  obtain ⟨_, looked, same⟩ := attempted
  cases same
  rcases outcome with error | event
  · cases error <;> cases rest
  · obtain ⟨events, mapped, first⟩ := bind_result_eq_ok.mp looked
    obtain ⟨rows, read, mapping⟩ := bind_result_eq_ok.mp mapped
    obtain ⟨row, others, ⟨inChannel, hasId⟩, rest', same⟩ :=
      List.forall₂_cons_left_iff.mp (getMessageRows_keys read)
    cases rest'
    subst same
    obtain ⟨_, _, here, tail, same⟩ := List.forall₂_cons_left_iff.mp (traverseFrom_eq_ok.mp mapping)
    cases tail
    subst same
    cases first
    refine ⟨row, event, inChannel, hasId, here, ?_⟩
    simpa using rest

/-! ## The previous messages of a hidden feed -/

/-- The message whose text the metadata of a hidden feed holds. -/
def hiddenTarget (row : MessageRow) (messageIds : List Int64) : Option Int64 :=
  if row.messageId ∈ messageIds then some row.messageId else messageIds.head?

/-- The target of a hidden message is one of its ids. -/
theorem hiddenTarget_mem {row : MessageRow} {messageIds : List Int64} {target : Int64}
    (isTarget : hiddenTarget row messageIds = some target) : target ∈ messageIds := by
  unfold hiddenTarget at isTarget
  split at isTarget
  · rename_i own
    cases isTarget
    exact own
  · exact List.mem_of_head? isTarget

/-- The source looks for the row's own id and falls back to the first. -/
theorem hiddenTarget_eq (row : MessageRow) (messageIds : List Int64) :
    ((messageIds.find? fun messageId => messageId = row.messageId) <|> messageIds.head?) =
      hiddenTarget row messageIds := by
  unfold hiddenTarget
  split
  · rename_i own
    have found : (messageIds.find? fun messageId => messageId = row.messageId) =
        some row.messageId := by
      cases result : messageIds.find? fun messageId => messageId = row.messageId with
      | none =>
          rw [List.find?_eq_none] at result
          exact absurd (decide_eq_true rfl) (result row.messageId own)
      | some messageId =>
          have same : messageId = row.messageId := by simpa using List.find?_some result
          rw [same]
    rw [found]
    rfl
  · rename_i other
    have absent : (messageIds.find? fun messageId => messageId = row.messageId) = none :=
      List.find?_eq_none.mpr fun messageId member same =>
        other (of_decide_eq_true same ▸ member)
    rw [absent]
    rfl

/-- The text of a message is replaced. -/
def withText (text : String) (message : MessageEvent) : MessageEvent :=
  { message with message := text }

/-- The first message with the id is replaced, or there is none. -/
theorem replaceMessage_cases (messageId : Int64) (text : String) (messages : List MessageEvent) :
    (∃ before message after, messages = before ++ message :: after ∧
      (∀ other ∈ before, other.messageId ≠ messageId) ∧ message.messageId = messageId ∧
      replaceMessage messageId text messages = some (before ++ withText text message :: after)) ∨
    (replaceMessage messageId text messages = none ∧
      ∀ message ∈ messages, message.messageId ≠ messageId) := by
  induction messages with
  | nil => exact .inr ⟨rfl, List.forall_mem_nil _⟩
  | cons first rest ih =>
      by_cases same : first.messageId = messageId
      · refine .inl ⟨[], first, rest, rfl, List.forall_mem_nil _, same, ?_⟩
        rw [replaceMessage, if_pos same]
        rfl
      · rw [replaceMessage, if_neg same]
        rcases ih with ⟨before, message, after, rfl, earlier, found, replaced⟩ | ⟨none, absent⟩
        · refine .inl ⟨first :: before, message, after, rfl, ?_, found, ?_⟩
          · exact List.forall_mem_cons.mpr ⟨same, earlier⟩
          · rw [replaced]
            rfl
        · refine .inr ⟨?_, List.forall_mem_cons.mpr ⟨same, absent⟩⟩
          rw [none]
          rfl

/-- The text replaces that of the snapshot with the id, or comes in a snapshot of its own. -/
theorem replaceMessage_upserted (messageId : Int64) (text : String) (entry : MessageEvent)
    (messages : List MessageEvent) :
    Upserted MessageEvent.messageId messageId (withText text) entry messages
      ((replaceMessage messageId text messages).getD (messages ++ [entry])) := by
  rcases replaceMessage_cases messageId text messages with
    ⟨before, message, after, rfl, earlier, found, replaced⟩ | ⟨none, absent⟩
  · rw [replaced]
    exact .updated earlier found
  · rw [none]
    exact .added absent

section Merge

variable {row : MessageRow} {channel : Channel} {author : Option Member} {messageIds : List Int64}
  {snapshots : List MessageEvent}

/-- The text of the metadata becomes that of the entry for its target. -/
theorem mergeHidden_upserted {text : String} {target : Int64}
    (rewritten : hiddenMessageFromMetadata serde database row = some text)
    (isTarget : hiddenTarget row messageIds = some target) :
    Upserted MessageEvent.messageId target (withText text)
      (rewrittenMessage row channel author target text) snapshots
      (mergeHidden serde database row channel author messageIds snapshots) := by
  have upserted := replaceMessage_upserted target text
    (rewrittenMessage row channel author target text) snapshots
  simp only [mergeHidden, rewritten, hiddenTarget_eq, isTarget]
  cases replaced : replaceMessage target text snapshots with
  | none =>
      rw [replaced] at upserted
      exact upserted
  | some messages =>
      rw [replaced] at upserted
      exact upserted

/-- Without a text or a message to give it to, the snapshots stay as they are. -/
theorem mergeHidden_eq_self
    (idle : hiddenMessageFromMetadata serde database row = none ∨ messageIds = []) :
    mergeHidden serde database row channel author messageIds snapshots = snapshots := by
  rcases idle with none | rfl
  · simp only [mergeHidden, none]
  · simp only [mergeHidden]
    cases hiddenMessageFromMetadata serde database row <;> rfl

/-- Either there is nothing to put in, or a text and the message it belongs to. -/
theorem hiddenText_cases (serde : Serde) (database : Database) (row : MessageRow)
    (messageIds : List Int64) :
    (hiddenMessageFromMetadata serde database row = none ∨ messageIds = []) ∨
      ∃ text target, hiddenMessageFromMetadata serde database row = some text ∧
        hiddenTarget row messageIds = some target := by
  by_cases idle : hiddenMessageFromMetadata serde database row = none ∨ messageIds = []
  · exact .inl idle
  · obtain ⟨present, filled⟩ := not_or.mp idle
    obtain ⟨text, rewritten⟩ := Option.ne_none_iff_exists'.mp present
    refine .inr ⟨text, ?_⟩
    unfold hiddenTarget
    split
    · exact ⟨_, rewritten, rfl⟩
    · exact ⟨_, rewritten, List.head?_eq_some_head filled⟩

/-- What is merged belongs to the messages the feed names. -/
theorem mergeHidden_fits (inChannel : channel.id = row.channelId)
    (fits : ∀ message ∈ snapshots, ∃ messageId ∈ messageIds,
      BelongsTo row.channelId messageId message) :
    ∀ message ∈ mergeHidden serde database row channel author messageIds snapshots,
      ∃ messageId ∈ messageIds, BelongsTo row.channelId messageId message := by
  rcases hiddenText_cases serde database row messageIds with
    idle | ⟨text, target, rewritten, isTarget⟩
  · rw [mergeHidden_eq_self idle]
    exact fits
  · refine (mergeHidden_upserted rewritten isTarget).forall_mem fits ?_ ?_
    · exact fun message member _ => fits message member
    · exact ⟨target, hiddenTarget_mem isTarget, rfl, channel, rfl, inChannel⟩

end Merge

/-! ## Events -/

section Mapping

variable {recurse : MessageRow → DbM Event} {row : MessageRow}

/-- Every row is mapped to an event about it. -/
def MapsFitting (recurse : MessageRow → DbM Event) : Prop :=
  ∀ world row event, (recurse row world).result = some (.ok event) → Fits row event

/-- A snapshot belongs to the message it was taken of. -/
theorem MapsFitting.snapshot (maps : MapsFitting recurse) {channelId messageId : Int64}
    {message : MessageEvent}
    (taken : (getMessageSnapshot recurse channelId messageId world).result =
      some (.ok (some message))) : BelongsTo channelId messageId message := by
  obtain ⟨row, event, rfl, rfl, mapped, found⟩ := getMessageSnapshot_eq_some taken
  exact snapshotOf_fits (maps _ _ _ mapped) found

/-- The snapshots of a loop, each for its own id. -/
theorem MapsFitting.snapshots (maps : MapsFitting recurse) {channelId : Int64}
    {messageIds : List Int64} {found : List (Option MessageEvent)}
    (taken : (traverse .snapshot (getMessageSnapshot recurse channelId) messageIds world).result =
      some (.ok found)) :
    List.Forall₂ (fun messageId snapshot => ∀ message, snapshot = some message →
      BelongsTo channelId messageId message) messageIds found := by
  have each := (traverseFrom_eq_ok.mp taken).imp fun numbered snapshot here =>
    (fun message same => maps.snapshot (same ▸ here) :
      ∀ message, snapshot = some message → BelongsTo channelId numbered.1 message)
  have numbered := List.forall₂_map_left_iff (f := Prod.fst) (R := fun messageId snapshot =>
    ∀ message, snapshot = some message → BelongsTo channelId messageId message).mpr each
  rwa [List.zipIdx_map_fst] at numbered

/-- Each snapshot found was taken for one of the ids. -/
theorem exists_of_mem_found {related : Int64 → Option MessageEvent → Prop} {messageIds : List Int64}
    {found : List (Option MessageEvent)} (each : List.Forall₂ related messageIds found)
    {snapshot : Option MessageEvent} (member : snapshot ∈ found) :
    ∃ messageId ∈ messageIds, related messageId snapshot := by
  obtain ⟨index, bound, rfl⟩ := List.getElem_of_mem member
  have within := each.length_eq.symm ▸ bound
  exact ⟨_, List.getElem_mem within, each.get within bound⟩

/-- The snapshot of a feed about one message. -/
theorem MapsFitting.snapshotFits (maps : MapsFitting recurse) {messageId : Int64}
    {snapshot : Option MessageEvent} (embeds : Embeds recurse row world messageId snapshot) :
    SnapshotFits row messageId snapshot := by
  cases embeds with
  | own same => exact snapshotFits_none row messageId
  | other different taken =>
      exact ⟨fun same => absurd same different, fun _ found => maps.snapshot (found ▸ taken)⟩

/-- So the feed fits once its snapshots are in it. -/
theorem MapsFitting.enrichFeed (maps : MapsFitting recurse) {value enriched : FeedValue}
    {channel : Channel} {author : Option Member} (inChannel : channel.id = row.channelId)
    (plain : FeedFits row value)
    (completed : (enrichFeed serde database recurse row value channel author world).result =
      some (.ok enriched)) : FeedFits row enriched := by
  cases enrichFeed_eq_ok completed with
  | deleted embeds => exact maps.snapshotFits embeds
  | changed embeds => exact maps.snapshotFits embeds
  | kept noTarget => exact plain
  | hidden taken =>
      refine mergeHidden_fits inChannel fun message member => ?_
      obtain ⟨snapshot, listed, same⟩ := List.mem_filterMap.mp member
      obtain ⟨messageId, asked, belongs⟩ := exists_of_mem_found (maps.snapshots taken) listed
      exact ⟨messageId, (List.mem_filter.mp asked).1, belongs message same⟩

/-- A parsed feed embeds nothing yet. -/
theorem feedValue_fits {json : Value} {feedTypeId : Int64} {author : Option Member}
    {value : FeedValue}
    (parsed : feedValue serde json feedTypeId author row.messageId = .ok value) :
    FeedFits row value := by
  unfold feedValue at parsed
  cases kind : FeedType.ofInt64 feedTypeId <;> simp only [kind] at parsed
  case messageDeleted =>
    obtain ⟨messageId, -, returned⟩ := bind_eq_ok.mp parsed
    cases returned
    exact snapshotFits_none row messageId
  case messageChanged =>
    obtain ⟨messageId, -, rest⟩ := bind_eq_ok.mp parsed
    obtain ⟨revision, -, returned⟩ := bind_eq_ok.mp rest
    cases returned
    exact snapshotFits_none row messageId
  case messageHidden =>
    split at parsed
    · cases parsed
      exact List.forall_mem_nil _
    · obtain ⟨infos, -, returned⟩ := bind_eq_ok.mp parsed
      cases returned
      exact List.forall_mem_nil _
  case managerSpeakerMode =>
    obtain ⟨eventType, -, rest⟩ := bind_eq_ok.mp parsed
    split at rest
    · cases rest
      trivial
    · split at rest
      · cases rest
        trivial
      · cases rest
  case userJoined =>
    obtain ⟨members, -, returned⟩ := bind_eq_ok.mp parsed
    cases returned
    trivial
  case openLinkUserJoined =>
    obtain ⟨members, -, returned⟩ := bind_eq_ok.mp parsed
    cases returned
    trivial
  all_goals
    cases parsed
    trivial

/-- A row is mapped to an event about it, given that the rows it refers to are. -/
theorem mapMessage_fits (serde : Serde) (database : Database) (fuel : Nat) :
    MapsFitting (mapMessage serde database fuel) := by
  induction fuel with
  | zero =>
      intro world row event mapped
      cases mapped
  | succ fuel ih =>
      intro world row event mapped
      obtain ⟨author, channel, assembled, -, channelResult, content, rest⟩ :=
        mapMessage_eq_ok.mp mapped
      have inChannel := getChannel_id channelResult
      unfold assembleMessage at content
      by_cases feed : row.messageType = 0
      · simp only [feed, ne_eq, not_true_eq_false, if_false, if_true] at rest content
        obtain ⟨payload, parsed, returned⟩ := bind_eq_ok.mp content
        cases returned
        obtain ⟨json, -, typed⟩ := bind_eq_ok.mp (mapError_eq_ok.mp parsed)
        obtain ⟨value, valued, built⟩ := bind_eq_ok.mp typed
        cases built
        obtain ⟨enriched, completed, returned⟩ := bind_result_eq_ok.mp rest
        cases returned
        exact ih.enrichFeed inChannel (feedValue_fits valued) completed
      · simp only [feed, ne_eq, not_false_eq_true, if_true, if_false] at rest content
        cases content
        cases rest
        exact ⟨rfl, channel, rfl, inChannel⟩

end Mapping

/-! ## Targets rewritten in place -/

/-- At most one row of a channel has a message id. -/
def UniqueMessages (tables : Tables) : Prop :=
  ∀ channelId messageId : Int64, ∀ log ∈ tables.chatLogs, ∀ other ∈ tables.chatLogs,
    log.chatId.equals (.integer channelId) → log.id.equals (.integer messageId) →
    other.chatId.equals (.integer channelId) → other.id.equals (.integer messageId) → log = other

/-- A row that was turned into a feed of type 13 and keeps its text in its metadata. -/
structure RewrittenInPlace (serde : Serde) (database : Database) (row : MessageRow)
    (text : String) : Prop where
  isFeed : row.messageType = 0
  feedType : ∃ json, serde.read (messageText serde database row) = some json ∧
    (json.get "feedType").bind Value.asI64 = some openChatRewriteType
  metadata : ∃ raw metadata ciphertext enc, row.metadata = some raw ∧
    serde.read raw = some metadata ∧ metadata.get "previous_message" = some (.string ciphertext) ∧
    metadataU32 metadata "previous_enc" = some enc ∧
    text = database.decryptor.decryptForUser ciphertext enc row.userId

section Rewritten

variable {tables : Tables} {row : MessageRow} {text : String}

/-- A rewritten message has its text in the metadata. -/
theorem RewrittenInPlace.hiddenMessage (rewritten : RewrittenInPlace serde database row text) :
    hiddenMessageFromMetadata serde database row = some text := by
  obtain ⟨isFeed, -, raw, metadata, ciphertext, enc, hasMetadata, read, previous, encRead, same⟩ :=
    rewritten
  simp [hiddenMessageFromMetadata, isFeed, hasMetadata, read, previous, encRead, same, Value.asStr]

/-- The payload of a rewritten row hides the row itself. -/
theorem RewrittenInPlace.parse (rewritten : RewrittenInPlace serde database row text)
    (author : Option Member) :
    parse serde (messageText serde database row) author row.messageId =
      .ok ⟨some (.messageHidden ⟨[row.messageId], []⟩)⟩ := by
  obtain ⟨json, read, feedType⟩ := rewritten.feedType
  rw [Serde.read, toOption_eq_some] at read
  simp only [Database.parse, read, Except.mapError, bind, Except.bind, feedType, Option.getD_some]
  rfl

/-- A rewritten row is mapped to a feed that embeds its former text. -/
theorem RewrittenInPlace.mapped (rewritten : RewrittenInPlace serde database row text) {fuel : Nat}
    {event : Event}
    (mapped : (mapMessage serde database fuel row world).result = some (.ok event)) :
    ∃ message, snapshotOf row.messageId event = some message ∧ message.message = text := by
  cases fuel with
  | zero => cases mapped
  | succ fuel =>
      obtain ⟨author, channel, assembled, -, -, content, rest⟩ := mapMessage_eq_ok.mp mapped
      rw [assembleMessage, if_pos rewritten.isFeed, rewritten.parse] at content
      cases content
      rw [if_neg (not_not.mpr rewritten.isFeed)] at rest
      obtain ⟨enriched, completed, returned⟩ := bind_result_eq_ok.mp rest
      cases returned
      obtain ⟨found, taken, built⟩ := bind_result_eq_ok.mp completed
      cases built
      have none : [row.messageId].filter (fun messageId => messageId ≠ row.messageId) = [] := by
        simp
      rw [none] at taken
      cases taken
      have own : hiddenTarget row [row.messageId] = some row.messageId :=
        if_pos (List.mem_singleton_self _)
      have merged : mergeHidden serde database row channel author.toOption [row.messageId] [] =
          [rewrittenMessage row channel author.toOption row.messageId text] := by
        simp only [mergeHidden, rewritten.hiddenMessage, hiddenTarget_eq, own]
        rfl
      refine ⟨rewrittenMessage row channel author.toOption row.messageId text, ?_, rfl⟩
      simp only [snapshotOf, Option.bind_some, List.filterMap_nil, merged]
      exact List.find?_cons_of_pos (decide_eq_true rfl)

/-- With unique message ids, a lookup finds the one row there is. -/
theorem lookup_of_unique (unique : UniqueMessages tables) {log : ChatLog}
    (stored : log ∈ tables.chatLogs) (read : readMessage log = .ok row) :
    lookup tables row.channelId row.messageId = .found row := by
  obtain ⟨-, hasId, inChannel⟩ := readMessage_keys read
  have selects (other : ChatLog) : other ∈ selectMessages row.channelId [row.messageId] tables ↔
      other = log := by
    rw [selectMessages, List.mem_filter, Bool.and_eq_true, SqlValue.isIn_iff]
    simp only [List.mem_singleton, exists_eq_left]
    constructor
    · rintro ⟨listed, channel, id⟩
      exact unique row.channelId row.messageId other listed log stored channel id
        (by rw [inChannel, SqlValue.integer_equals_integer])
        (by rw [hasId, SqlValue.integer_equals_integer])
    · rintro rfl
      rw [inChannel, hasId, SqlValue.integer_equals_integer, SqlValue.integer_equals_integer]
      exact ⟨stored, rfl, rfl⟩
  have each : (selectMessages row.channelId [row.messageId] tables).mapM readMessage =
      .ok ((selectMessages row.channelId [row.messageId] tables).map fun _ => row) := by
    apply mapM_eq_ok
    intro other member
    rw [(selects other).mp member, read]
  have filled : selectMessages row.channelId [row.messageId] tables ≠ [] :=
    List.ne_nil_of_mem ((selects log).mpr rfl)
  rw [lookup, each]
  simp [List.getLast?_replicate, filled]

/-- A message with one row is what this row is mapped to. -/
theorem getMessage_of_rows {recurse : MessageRow → DbM Event} {channelId messageId : Int64}
    (rows : (getMessageRows channelId [messageId] world).result = some (.ok [row])) :
    (getMessage recurse channelId messageId world).result =
      (recurse row (world.below (.message 0))).result := by
  have messages : (getMessages recurse channelId [messageId] world).result =
      (traverse .message recurse [row] world).result := bind_result_of_ok rows
  rcases mapped : (recurse row (world.below (.message 0))).result with _ | error | event
  · have none : (traverse .message recurse [row] world).result = none := bind_result_of_none mapped
    exact bind_result_of_none (messages.trans none)
  · have failed : (traverse .message recurse [row] world).result = some (.error error) :=
      bind_result_of_error mapped
    exact bind_result_of_error (messages.trans failed)
  · have one : (traverse .message recurse [row] world).result = some (.ok [event]) :=
      bind_result_of_ok mapped
    exact bind_result_of_ok (messages.trans one)

/-- The snapshot of a row that is there is taken out of its event. -/
theorem getMessageSnapshot_found (still : world.Still tables) {fuel : Nat}
    {channelId messageId : Int64} (found : lookup tables channelId messageId = .found row)
    {snapshot : Option MessageEvent}
    (taken : (getMessageSnapshot (mapMessage serde database fuel) channelId messageId
      world).result = some (.ok snapshot)) :
    ∃ event, (mapMessage serde database fuel row (world.below (.message 0))).result =
        some (.ok event) ∧ snapshot = snapshotOf messageId event := by
  obtain ⟨outcome, rows, same⟩ := @getMessageRows_result _ _ channelId still messageId
  simp only [found] at same
  subst same
  obtain ⟨attempted, looked, rest⟩ := bind_result_eq_ok.mp taken
  rw [attempt_result, getMessage_of_rows rows, Option.map_eq_some_iff] at looked
  obtain ⟨outcome, mapped, same⟩ := looked
  cases same
  rcases attempted with error | event
  · have notAbsent := raises_mapMessage serde database fuel row _ _ mapped
    cases error with
    | messageNotFound messageId => exact absurd rfl (notAbsent messageId)
    | _ => cases rest
  · cases rest
    exact ⟨event, mapped, rfl⟩

/-- A deleted or changed feed about another row embeds the snapshot of that row. -/
theorem enrichFeed_embedded {recurse : MessageRow → DbM Event} {value enriched : FeedValue}
    {channel : Channel} {author feedAuthor : Option Member} {feedChannel : Option Channel}
    {messageId : Int64}
    (completed : (enrichFeed serde database recurse row value channel author world).result =
      some (.ok enriched))
    (isTarget : feedTarget ⟨some (.feed ⟨feedChannel, some ⟨some enriched⟩, feedAuthor⟩)⟩ =
      some messageId) (other : messageId ≠ row.messageId) :
    ∃ snapshot, (getMessageSnapshot recurse row.channelId messageId
        (world.below (.snapshot 0))).result = some (.ok snapshot) ∧
      embeddedMessage ⟨some (.feed ⟨feedChannel, some ⟨some enriched⟩, feedAuthor⟩)⟩ =
        snapshot := by
  cases enrichFeed_eq_ok completed with
  | deleted embeds =>
      cases isTarget
      cases embeds with
      | own same => exact absurd same other
      | other different taken => exact ⟨_, taken, rfl⟩
  | changed embeds =>
      cases isTarget
      cases embeds with
      | own same => exact absurd same other
      | other different taken => exact ⟨_, taken, rfl⟩
  | hidden taken => cases isTarget
  | kept noTarget => cases (noTarget feedChannel feedAuthor).symm.trans isTarget

end Rewritten

/-- Messages embedded in a mapped feed belong to what the feed names; and a target that was
rewritten in place is embedded with the text its metadata keeps. -/
theorem mapMessage_snapshots (serde : Serde) (database : Database) {world : World} {fuel : Nat}
    {row : MessageRow} {event : Event}
    (mapped : (mapMessage serde database fuel row world).result = some (.ok event)) :
    Fits row event ∧
      ∀ tables log target text, world.Still tables → UniqueMessages tables →
        log ∈ tables.chatLogs → readMessage log = .ok target → target.channelId = row.channelId →
        target.messageId ≠ row.messageId → feedTarget event = some target.messageId →
        RewrittenInPlace serde database target text →
        ∃ message, embeddedMessage event = some message ∧ message.message = text := by
  refine ⟨mapMessage_fits serde database fuel world row event mapped, ?_⟩
  intro tables log target text still unique stored read inChannel other isTarget rewritten
  cases fuel with
  | zero => cases mapped
  | succ fuel =>
      obtain ⟨author, channel, assembled, -, -, content, rest⟩ := mapMessage_eq_ok.mp mapped
      by_cases isFeed : row.messageType = 0
      · rw [if_neg (not_not.mpr isFeed)] at rest
        rw [assembleMessage, if_pos isFeed] at content
        obtain ⟨⟨value⟩, -, returned⟩ := bind_eq_ok.mp content
        cases returned
        cases value with
        | none =>
            cases rest
            cases isTarget
        | some value =>
            obtain ⟨enriched, completed, returned⟩ := bind_result_eq_ok.mp rest
            cases returned
            obtain ⟨snapshot, taken, embedded⟩ := enrichFeed_embedded completed isTarget other
            have found := inChannel ▸ lookup_of_unique unique stored read
            obtain ⟨event, targetMapped, rfl⟩ :=
              getMessageSnapshot_found (still.below _) found taken
            rw [embedded]
            exact rewritten.mapped targetMapped
      · rw [if_pos isFeed] at rest
        rw [assembleMessage, if_neg isFeed] at content
        cases content
        cases rest
        cases isTarget

/-! ### A deleted message that was rewritten -/

def hidesItself : String := "\x7b\"feedType\":13\x7d"
def hiddenMetadata : String := "\x7b\"previous_message\":\"secret!\",\"previous_enc\":0\x7d"

/-- The JSON reader on the feed, the rewritten feed and its metadata. -/
def hiddenSerde : Serde where
  fromStr text :=
    if text = deletesSecond then
      .ok (.object [("feedType", .number (.posInt 14)), ("logId", .number (.posInt 2))])
    else if text = hidesItself then
      .ok (.object [("feedType", .number (.posInt 13))])
    else if text = hiddenMetadata then
      .ok (.object [("previous_message", .string "secret!"), ("previous_enc", .number (.posInt 0))])
    else
      .error "expected value at line 1 column 1"
  toString _ := "\x7b\x7d"

def hiddenLog : ChatLog :=
  ⟨2, .integer 2, .integer 0, .integer 7, .integer 100, .text hidesItself, .null,
    .text hiddenMetadata, .null, .integer 1⟩

def hiddenRow : MessageRow :=
  ⟨2, 2, 0, 7, 100, some hidesItself, none, some hiddenMetadata, none, 1⟩

def hiddenTables : Tables where
  chatLogs := [feedLog 1 deletesSecond, hiddenLog]
  chatRooms := [plainRoom]
  openLinks := []
  openProfiles := []
  openChatMembers := []
  users := []
  friends := []
  primaryKey := by decide

def plainChannel : Channel := ⟨7, "MultiChat", none, none⟩

/-- The hidden message with the text of the metadata. -/
def secretMessage : MessageEvent :=
  ⟨2, none, 1, 0, some plainChannel, none, "secret!", "\x7b\x7d", []⟩

def deletedEvent : Event :=
  ⟨some (.feed ⟨some plainChannel, some ⟨some (.messageDeleted ⟨2, some secretMessage⟩)⟩, none⟩)⟩

/-- No id comes twice in the tables of the example. -/
theorem hiddenTables_unique : UniqueMessages hiddenTables := by
  intro channelId messageId log stored other otherStored _ id _ otherId
  have rows : ∀ log ∈ hiddenTables.chatLogs, log = feedLog 1 deletesSecond ∧
      log.id = .integer 1 ∨ log = hiddenLog ∧ log.id = .integer 2 := by
    intro log stored
    rcases List.mem_cons.mp stored with rfl | stored
    · exact .inl ⟨rfl, rfl⟩
    · exact .inr ⟨List.mem_singleton.mp stored, List.mem_singleton.mp stored ▸ rfl⟩
  rcases rows log stored with ⟨rfl, first⟩ | ⟨rfl, first⟩ <;>
    rcases rows other otherStored with ⟨rfl, second⟩ | ⟨rfl, second⟩
  · rfl
  · rw [first, SqlValue.integer_equals_integer] at id
    rw [second, SqlValue.integer_equals_integer, ← id] at otherId
    exact absurd otherId (by decide)
  · rw [first, SqlValue.integer_equals_integer] at id
    rw [second, SqlValue.integer_equals_integer, ← id] at otherId
    exact absurd otherId (by decide)
  · rfl

/-- The text of their hidden row was rewritten in place. -/
theorem hiddenRow_rewritten : RewrittenInPlace hiddenSerde plainDatabase hiddenRow "secret!" where
  isFeed := rfl
  feedType := ⟨.object [("feedType", .number (.posInt 13))], rfl, rfl⟩
  metadata := ⟨hiddenMetadata, _, "secret!", 0, rfl, rfl, rfl, rfl, rfl⟩

/-- The rewritten text is the one that the event shows. -/
theorem mapMessage_snapshots_secret : ∃ message, embeddedMessage deletedEvent = some message ∧
    message.message = "secret!" :=
  (@mapMessage_snapshots hiddenSerde plainDatabase (World.steady hiddenTables) 3
      (feedRow 1 deletesSecond) deletedEvent rfl).2 hiddenTables hiddenLog hiddenRow "secret!"
    (World.steady_still hiddenTables) hiddenTables_unique (by decide) rfl rfl (by decide) rfl
    hiddenRow_rewritten

/-! ## Counting previous messages -/

/-- The previous messages of a hidden feed, against the snapshots found for it. -/
structure HiddenMerge (serde : Serde) (database : Database) (row : MessageRow)
    (messageIds : List Int64) (snapshots previous : List MessageEvent) : Prop where
  upserted : ∀ text target, hiddenMessageFromMetadata serde database row = some text →
    hiddenTarget row messageIds = some target →
    (∃ entry, entry.messageId = target ∧ entry.message = text ∧
      Upserted MessageEvent.messageId target (withText text) entry snapshots previous) ∧
    ∃ message ∈ previous, message.messageId = target ∧ message.message = text
  kept : hiddenMessageFromMetadata serde database row = none ∨ messageIds = [] →
    previous = snapshots
  counts : ∀ messageId, previous.countP (fun message => message.messageId = messageId) ≤
    messageIds.count messageId
  others : ∀ target, hiddenTarget row messageIds = some target →
    previous.filter (fun message => message.messageId ≠ target) =
      snapshots.filter fun message => message.messageId ≠ target

/-- An id is found at most as often as it is asked for. -/
theorem countP_found_le {channelId : Int64} {asked : List Int64}
    {found : List (Option MessageEvent)}
    (each : List.Forall₂ (fun messageId snapshot => ∀ message, snapshot = some message →
      BelongsTo channelId messageId message) asked found) (messageId : Int64) :
    (found.filterMap id).countP (fun message => message.messageId = messageId) ≤
      asked.count messageId := by
  induction each with
  | nil => exact Nat.le_refl _
  | @cons first snapshot rest others here _ ih =>
      cases snapshot with
      | none =>
          rw [List.filterMap_cons_none rfl]
          exact ih.trans (List.count_le_count_cons ..)
      | some message =>
          obtain ⟨same, -⟩ := here message rfl
          have shown : (some message :: others).filterMap id = message :: others.filterMap id := rfl
          rw [shown, List.countP_cons, List.count_cons, same]
          by_cases equal : first = messageId
          · simpa [equal] using ih
          · simpa [equal] using ih

/-- A hidden feed embeds the snapshots found for the other messages it hides, with the text of
the row's metadata put in for the message it belongs to. -/
theorem enrichFeed_hidden (serde : Serde) (database : Database) {world : World} {fuel : Nat}
    {row : MessageRow} {hidden : FeedMessageHidden} {channel : Channel} {author : Option Member}
    {enriched : FeedValue}
    (completed : (enrichFeed serde database (mapMessage serde database fuel) row
      (.messageHidden hidden) channel author world).result = some (.ok enriched)) :
    ∃ found previous,
      List.Forall₂ (fun (numbered : Int64 × Nat) snapshot =>
          (getMessageSnapshot (mapMessage serde database fuel) row.channelId numbered.1
            (world.below (.snapshot numbered.2))).result = some (.ok snapshot))
        (hidden.messageIds.filter fun messageId => messageId ≠ row.messageId).zipIdx found ∧
      enriched = .messageHidden ⟨hidden.messageIds, previous⟩ ∧
      HiddenMerge serde database row hidden.messageIds (found.filterMap id) previous := by
  obtain ⟨found, taken, built⟩ := bind_result_eq_ok.mp completed
  cases built
  have each := (mapMessage_fits serde database fuel).snapshots taken
  have asked (messageId : Int64) :
      (hidden.messageIds.filter fun messageId => messageId ≠ row.messageId).count messageId ≤
        hidden.messageIds.count messageId := List.filter_sublist.count_le _
  refine ⟨found, _, traverseFrom_eq_ok.mp taken, rfl, ?_, mergeHidden_eq_self, ?_, ?_⟩
  · intro text target rewritten isTarget
    have upserted := @mergeHidden_upserted serde database row channel author _
      (found.filterMap id) _ _ rewritten isTarget
    refine ⟨⟨_, rfl, rfl, upserted⟩, ?_⟩
    obtain ⟨message, member, rfl | ⟨old, -, hasId, rfl⟩⟩ := upserted.exists_entry
    · exact ⟨_, member, rfl, rfl⟩
    · exact ⟨_, member, hasId, rfl⟩
  · intro messageId
    have snapshots := (countP_found_le each messageId).trans (asked messageId)
    rcases hiddenText_cases serde database row hidden.messageIds with
      idle | ⟨text, target, rewritten, isTarget⟩
    · rw [mergeHidden_eq_self idle]
      exact snapshots
    · have upserted := @mergeHidden_upserted serde database row channel author _
        (found.filterMap id) _ _ rewritten isTarget
      refine (upserted.countP_le (fun _ => rfl) rfl messageId).trans (max_le snapshots ?_)
      split
      · rename_i same
        rw [same]
        exact List.count_pos_iff.mpr (hiddenTarget_mem isTarget)
      · exact Nat.zero_le _
  · intro target isTarget
    cases rewritten : hiddenMessageFromMetadata serde database row with
    | none => rw [mergeHidden_eq_self (.inl rewritten)]
    | some text =>
        exact (mergeHidden_upserted rewritten isTarget).others (fun _ => rfl) rfl

/-- The hidden row is not looked up again: its own entry is made from its metadata. -/
theorem enrichFeed_hidden_secret : ∃ found previous,
    List.Forall₂ (fun (numbered : Int64 × Nat) snapshot =>
        (getMessageSnapshot (mapMessage hiddenSerde plainDatabase 1) 7 numbered.1
          ((World.steady hiddenTables).below (.snapshot numbered.2))).result = some (.ok snapshot))
      ([2].filter fun messageId => messageId ≠ hiddenRow.messageId).zipIdx found ∧
    FeedValue.messageHidden ⟨[2], [secretMessage]⟩ = .messageHidden ⟨[2], previous⟩ ∧
    HiddenMerge hiddenSerde plainDatabase hiddenRow [2] (found.filterMap id) previous :=
  @enrichFeed_hidden hiddenSerde plainDatabase (World.steady hiddenTables) 1 hiddenRow ⟨[2], []⟩
    plainChannel none _ rfl

end Arisa.Database
