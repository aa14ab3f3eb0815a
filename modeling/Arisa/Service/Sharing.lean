import Arisa.Client.MediaAgreement
import Arisa.Media.Durability
import Arisa.Service.Server

/-!
# From an upload to the chat

A media call stores the files it carries and enqueues one action. The intents of
that action hold one URI for each file; it is read back as the path of a stored
file and the name and type the caller gave.
-/

namespace Arisa.Service

open Arisa.Android Arisa.Media Arisa.Proto Arisa.Std Arisa.Std.FormUrlencoded

/-- One file of a media call, with the name and the type the server keeps. -/
structure SentFile where
  name : Option String
  mime : String
  data : Bytes

def SentFile.ofWhole (file : Proto.MediaFile) : SentFile :=
  ⟨file.name, storeMime file.mime, file.data⟩

def SentFile.ofGroup (group : Group) : SentFile :=
  ⟨storeName group.metadata.fileName, storeMime group.metadata.contentType, group.bytes⟩

/-- What a media call carries. -/
inductive Carries : Request → Int64 → MediaMode → List SentFile → Prop
  | whole {request : SendMediaRequest} {mode : MediaMode}
      (valid : MediaMode.tryFrom request.mode = some mode) :
      Carries (.sendMedia request) request.channelId mode (request.files.map .ofWhole)
  | chunked {messages : List SendMediaByChunkRequest} {metadata : SendMediaByChunkMetadata}
      {mode : MediaMode} {groups : List Group}
      (wellFormed : WellFormed messages metadata mode groups) :
      Carries (.sendMediaByChunk (messages.map .ok)) metadata.channelId mode
        (groups.map .ofGroup)

/-- The files of a call get plain paths: the directory is that of `main`, and a UUID is written in
hexadecimal digits and hyphens. -/
structure PlainPaths (service : ArisaService) (world : CallWorld) : Prop where
  directory : PlainPath service.tempDir
  whole : ∀ number, PlainName (world.storeIo.uuid number)
  chunked : ∀ number, PlainName (world.io.uuid number)

/-- A file that was sent, where it is stored, and the URI that hands it out. -/
structure Offer where
  sent : SentFile
  path : String
  uri : String

/-- Who opens the URI finds the path of the file's bytes before the query, and the file's name and
type in it. -/
structure Offer.Holds (form : Codec) (directory : Directory) (offer : Offer) : Prop where
  stored : directory offer.path = some offer.sent.data
  read : ∃ query, splitQuery offer.uri.toList =
      (providerUri.toList ++ offer.path.toList, query) ∧
    parse form query = some (offer.sent.name.toList.map (fun name => ("name", name)) ++
      [("mimeType", offer.sent.mime)])

/-- The intents offer the files in order, each under a path of its own. -/
def Shares (form : Codec) (directory : Directory) (channelId : Int64)
    (mode : MediaMode) (files : List SentFile) (intents : List Intent) : Prop :=
  ∃ offers : List Offer, offers.map Offer.sent = files ∧ (offers.map Offer.path).Nodup ∧
    (∀ offer ∈ offers, offer.Holds form directory) ∧
    intents = match mode with
      | .multiple => [streamIntent "android.intent.action.SEND_MULTIPLE" "*/*"
          (.uris (offers.map Offer.uri)) channelId]
      | .single => offers.map fun offer => streamIntent "android.intent.action.SEND"
          offer.sent.mime (.uri offer.uri) channelId

section Stored

variable {url : Url} {form : Codec} {directory : Directory} {referer : String}
  {Item : Type} {items : List Item} {sent : Item → SentFile} {path : Nat → String}

/-- A map after a numbered map is one numbered map. -/
theorem map_mapIdx {β γ : Type} (make : Nat → Item → β) (read : β → γ) (items : List Item) :
    (items.mapIdx make).map read = items.mapIdx fun number item => read (make number item) := by
  apply List.ext_getElem?
  intro number
  rw [List.getElem?_map, List.getElem?_mapIdx, List.getElem?_mapIdx, Option.map_map]
  rfl

/-- What depends on the number alone is different for every item. -/
theorem nodup_mapIdx (distinct : Function.Injective path) (items : List Item) :
    (items.mapIdx fun number _ => path number).Nodup := by
  rw [List.nodup_iff_injective_get]
  intro first second same
  apply Fin.ext
  apply distinct
  simpa using same

/-- The file recorded for an item. -/
def recorded (sent : Item → SentFile) (path : Nat → String) (number : Nat) (item : Item) :
    Media.MediaFile :=
  ⟨path number, (sent item).mime, (sent item).name⟩

/-- Both uploads store item by item under names that are all different. -/
theorem shares_of_stored (lawful : url.Lawful form) (distinct : Function.Injective path)
    (plain : ∀ number, PlainPath (path number))
    (holds : ∀ (number : Nat) (item : Item), items[number]? = some item →
      directory (path number) = some (sent item).data)
    (channelId : Int64) (mode : MediaMode) :
    Shares form directory channelId mode (items.map sent)
      (intents url referer
        (.sendMedia channelId (items.mapIdx (recorded sent path)) (mode = .multiple))) := by
  let offer (number : Nat) (item : Item) : Offer :=
    ⟨sent item, path number, contentUri url (recorded sent path number item)⟩
  refine ⟨items.mapIdx offer, ?_, ?_, ?_, ?_⟩
  · rw [map_mapIdx]
    apply List.ext_getElem?
    intro number
    rw [List.getElem?_mapIdx, List.getElem?_map]
  · rw [map_mapIdx]
    exact nodup_mapIdx distinct items
  · intro offered member
    obtain ⟨number, bound, rfl⟩ := List.mem_mapIdx.mp member
    refine ⟨holds number _ (List.getElem?_eq_getElem bound), _, ?_,
      parse_appendPairs lawful.form _⟩
    rw [← lawful.plain _ (plain number)]
    exact splitQuery_contentUri lawful (recorded sent path number items[number])
  · cases mode with
    | single =>
        change ((items.mapIdx (recorded sent path)).map _).map Prod.snd =
          (items.mapIdx offer).map _
        rw [map_mapIdx, map_mapIdx, map_mapIdx]
        rfl
    | multiple =>
        change [streamIntent _ _ (.uris ((items.mapIdx (recorded sent path)).map _)) _] = _
        rw [map_mapIdx]
        simp only [map_mapIdx, offer]

end Stored

/-- The request carries files. -/
def Request.Uploads : Request → Prop
  | .sendMedia _ | .sendMediaByChunk _ => True
  | _ => False

section Calls

variable {Failure : Type} {service : ArisaService} {world : CallWorld} {shared : Shared Failure}
  {request : Request} {url : Url} {form : Codec} {referer : String}

/-- A media call that is answered has stored its files and enqueued the action that shares them. -/
structure Uploaded (url : Url) (form : Codec) (referer : String) (shared : Shared Failure)
    (outcome : Outcome Failure) (channelId : Int64) (mode : MediaMode) (files : List SentFile) :
    Prop where
  filled : files ≠ [] ∧ ∀ file ∈ files, file.data ≠ []
  enqueued : ∃ action,
    outcome.shared.processor.queue = shared.processor.queue ++ [action] ∧
    Shares form outcome.directory channelId mode files (intents url referer action)

/-- An accepted action stands at the end of the queue. -/
theorem enqueue_ok {directory : Directory} {action : Action}
    (answered : (enqueue shared directory action).result = some (.ok .empty)) :
    (enqueue shared directory action).shared.processor.queue =
      shared.processor.queue ++ [action] := by
  by_cases receives : shared.processor.thread.receives
  · simp only [enqueue, Processor.enqueue, receives, if_true]
  · simp [enqueue, Processor.enqueue, receives, Except.mapError, Except.map] at answered

/-- A unary upload that is accepted is stored whole before it is queued. -/
theorem uploaded_sendMedia (lawful : url.Lawful form) (plain : PlainPaths service world)
    {request : SendMediaRequest}
    (answered : (sendMedia service world shared request).result = some (.ok .empty)) :
    ∃ mode, MediaMode.tryFrom request.mode = some mode ∧
      Uploaded url form referer shared (sendMedia service world shared request)
        request.channelId mode (request.files.map .ofWhole) := by
  unfold sendMedia at answered ⊢
  cases valid : MediaMode.tryFrom request.mode with
  | none =>
      rw [valid] at answered
      cases answered
  | some mode =>
      rw [valid] at answered
      refine ⟨mode, rfl, ?_⟩
      rcases store_ends world.storeIo service.tempDir world.directory request.files with
        ⟨-, error, failed⟩ | ⟨nonempty, all, stored, after, returned, saved⟩ |
        ⟨error, left, number, file, -, failed, -⟩
      · rw [failed] at answered
        cases answered
      · rw [returned] at answered ⊢
        refine ⟨⟨by simpa using nonempty, ?_⟩, _, enqueue_ok answered, ?_⟩
        · intro sent member
          obtain ⟨file, found, rfl⟩ := List.mem_map.mp member
          obtain ⟨number, bound, rfl⟩ := List.getElem_of_mem found
          exact (all number _ (List.getElem?_eq_getElem bound)).1
        · have shares := @shares_of_stored url form after referer _ request.files .ofWhole
            (world.storeIo.filePath service.tempDir) lawful
            (world.storeIo.filePath_injective service.tempDir)
            (fun number => plain.directory.join (plain.whole number)) saved.holds
            request.channelId mode
          rw [saved.stored_eq]
          exact shares
      · rw [failed] at answered
        cases answered

/-- So is a chunked one, once the last write of each file is complete. -/
theorem uploaded_sendMediaByChunk (lawful : url.Lawful form) (plain : PlainPaths service world)
    {stream : List (Except Status SendMediaByChunkRequest)}
    (settled : LastWritesComplete world.io stream)
    (answered : (sendMediaByChunk service world shared stream).result = some (.ok .empty)) :
    ∃ messages metadata mode groups, stream = messages.map .ok ∧
      WellFormed messages metadata mode groups ∧
      Uploaded url form referer shared (sendMediaByChunk service world shared stream)
        metadata.channelId mode (groups.map .ofGroup) := by
  unfold sendMediaByChunk at answered ⊢
  rcases returned : storeChunks world.io service.tempDir world.directory stream with
    ⟨result, after⟩
  rw [returned] at answered
  cases result with
  | error status => cases answered
  | ok media =>
      obtain ⟨messages, metadata, mode, groups, sent, wellFormed, observed, rfl, rfl⟩ :=
        storeChunks_ok_iff.mp returned
      have completed := settled messages metadata mode groups sent wellFormed observed
      refine ⟨messages, metadata, mode, groups, sent, wellFormed, ⟨?_, ?_⟩, _,
        enqueue_ok answered, ?_⟩
      · intro none
        have positive := wellFormed.positive
        rw [← wellFormed.count, List.map_eq_nil_iff.mp none] at positive
        exact absurd positive (by decide)
      · intro file member
        obtain ⟨group, found, rfl⟩ := List.mem_map.mp member
        intro empty
        have complete := wellFormed.complete group found
        have total := complete.total
        rw [show group.bytes = [] from empty] at total
        have positive := complete.positive
        rw [← total] at positive
        exact absurd positive (by decide)
      · have holds : ∀ (number : Nat) (group : Group), groups[number]? = some group →
            written world.io service.tempDir groups world.directory
              (Media.filePath world.io service.tempDir number) = some group.bytes := by
          intro number group found
          rw [written_of_getElem? _ _ _ _ found]
          exact ((group.durable_iff world.io number
            (wellFormed.complete group (List.mem_of_getElem? found))
            (observed number group found)).mpr (completed number group found)).holds
        exact @shares_of_stored url form _ referer _ groups .ofGroup _ lawful
          (Media.filePath_injective world.io service.tempDir)
          (fun number => plain.directory.join (plain.chunked number)) holds metadata.channelId mode

/-- A media call that is answered has stored every file it carries under a path of its own and
enqueued one action, whose intents offer these files in order: the path in a URI holds the bytes
sent, and the query is read back as the name and the type. The last write of each file of a chunked
upload has to complete by itself, as nothing waits for it: on a disk that fills up then, the call is
answered all the same. -/
theorem uploads_share (lawful : url.Lawful form) (plain : PlainPaths service world)
    (uploads : request.Uploads)
    (settled : ∀ stream, request = .sendMediaByChunk stream → LastWritesComplete world.io stream)
    (answered : (handle service world shared request).result = some (.ok .empty)) :
    ∃ channelId mode files, Carries request channelId mode files ∧
      Uploaded url form referer shared (handle service world shared request)
        channelId mode files := by
  cases request with
  | sendMedia request =>
      obtain ⟨mode, valid, uploaded⟩ := uploaded_sendMedia lawful plain answered
      exact ⟨_, mode, _, .whole valid, uploaded⟩
  | sendMediaByChunk stream =>
      obtain ⟨messages, metadata, mode, groups, rfl, wellFormed, uploaded⟩ :=
        uploaded_sendMediaByChunk lawful plain (settled stream rfl) answered
      exact ⟨_, mode, _, .chunked wellFormed, uploaded⟩
  | _ => exact absurd uploads id

end Calls

/-- The names of the example are plain. -/
theorem tallyName_plain (number : Nat) : PlainName (tallyName number) := by
  have letters : ∀ char ∈ (tallyName number).toList, char = 'f' := by
    intro char member
    rw [tallyName, String.toList_ofList] at member
    exact List.eq_of_mem_replicate member
  refine ⟨List.all_eq_true.mpr fun char member => ?_, fun dot => ?_, fun dots => ?_⟩
  · rw [letters char member]
    decide
  · exact absurd (letters '.' (dot ▸ List.mem_cons_self ..)) (by decide)
  · exact absurd (letters '.' (dots ▸ List.mem_cons_self ..)) (by decide)

/-- The directory and the names of the calls below are plain. -/
theorem quiet_plainPaths : PlainPaths quietService quietCall where
  directory := by decide
  whole := tallyName_plain
  chunked := tallyName_plain

/-- On a disk that completes every write the last ones are complete. -/
theorem lastWritesComplete_of_completed {io : Io}
    (completed : ∀ number index, io.write number index = .completed)
    (stream : List (Except Status SendMediaByChunkRequest)) : LastWritesComplete io stream :=
  fun _ _ _ _ _ _ _ _ _ _ => completed _ _

/-- Two files, the first in three chunks of which one is empty. -/
def twoFilesMessages : List SendMediaByChunkRequest :=
  ⟨some (.metadata ⟨7, 2, 1⟩)⟩ :: twoFileGroups.flatMap Group.messages

/-- A stored upload is answered as long as the action thread runs. -/
theorem answered_of_storeChunks {Failure : Type} {service : ArisaService} {world : CallWorld}
    {shared : Shared Failure} {stream : List (Except Status SendMediaByChunkRequest)}
    {media : StoredMedia} {after : Directory}
    (stored : storeChunks world.io service.tempDir world.directory stream = (.ok media, after))
    (receives : shared.processor.thread.receives = true) :
    (handle service world shared (.sendMediaByChunk stream)).result = some (.ok .empty) := by
  simp only [handle, sendMediaByChunk, stored, enqueue, Processor.enqueue, receives, if_true]
  rfl

/-- The two files of the example are accepted. -/
theorem twoFilesMessages_answered :
    (handle quietService quietCall quietServer.shared
      (.sendMediaByChunk (twoFilesMessages.map .ok))).result = some (.ok .empty) := by
  have wellFormed : WellFormed twoFilesMessages ⟨7, 2, 1⟩ .multiple twoFileGroups :=
    ⟨rfl, rfl, by decide, rfl, twoFileGroups_complete⟩
  have stored := storeChunks_of_wellFormed quietService.tempDir quietCall.directory wellFormed
    fun number group _ => healthy_observed tallyName tallyName_injective number group
  exact @answered_of_storeChunks _ quietService quietCall quietServer.shared _ _ _ stored rfl

/-- The two files of the example are shared by one intent. -/
theorem uploads_share_twoFiles :
    ∃ channelId mode files,
      Carries (.sendMediaByChunk (twoFilesMessages.map .ok)) channelId mode files ∧
      Uploaded percentUrl percent "referer" quietServer.shared
        (handle quietService quietCall quietServer.shared
          (.sendMediaByChunk (twoFilesMessages.map .ok))) channelId mode files :=
  uploads_share percentUrl_lawful quiet_plainPaths trivial
    (fun stream _ => lastWritesComplete_of_completed (fun _ _ => rfl) stream)
    twoFilesMessages_answered

section FromClient

open Arisa.Client

variable {Failure : Type} {service : ArisaService} {world : CallWorld} {shared : Shared Failure}
  {url : Url} {form : Codec} {referer : String}

/-- What the server keeps of an item of the Python client that was read as `data`. -/
def SentFile.ofItem (item : Client.MediaFile) (data : Bytes) : SentFile :=
  ⟨storeName (item.name.getD ""), storeMime (item.mime.getD ""), data⟩

variable {libraries : Libraries} {reads : Nat → ReadResult} {transport : PyException → Status}

/-- An item whose requests were all sent is one group, however its size was converted. -/
theorem itemRequests_group {result : ReadResult} {item : Client.MediaFile}
    {messages : List SendMediaByChunkRequest}
    (sent : itemRequests libraries result item = .ok messages) :
    ∃ data group, Client.read result item = .ok data ∧ messages = group.messages ∧
      SentFile.ofGroup group = SentFile.ofItem item data := by
  unfold itemRequests at sent
  cases found : Client.read result item with
  | error error =>
      rw [found] at sent
      cases sent
  | ok data =>
      cases converted : libraries.uint64 data.length with
      | error error =>
          simp [found, converted, bind, Except.bind] at sent
      | ok size =>
          refine ⟨data, ⟨⟨item.name.getD "", size, item.mime.getD ""⟩,
            slices mediaChunkSize data⟩, rfl, ?_, ?_⟩
          · simp only [found, converted, bind, Except.bind, pure, Except.pure,
              Except.ok.injEq] at sent
            exact sent.symm
          · rw [SentFile.ofGroup, SentFile.ofItem, Group.bytes,
              flatten_slices mediaChunkSize_pos]

/-- The loop got through when everything it yielded was a request. -/
theorem itemsRequests_groups {index : Nat} {items : List Client.MediaFile}
    {messages : List SendMediaByChunkRequest}
    (sent : (itemsRequests libraries reads index items).map (Except.mapError transport) =
      messages.map .ok) :
    ∃ (datas : List Bytes) (groups : List Group), ReadsAs reads index items datas ∧
      messages = groups.flatMap Group.messages ∧
      groups.map .ofGroup = List.zipWith SentFile.ofItem items datas := by
  induction items generalizing index messages with
  | nil =>
      obtain rfl : messages = [] := by simpa [itemsRequests] using sent
      exact ⟨[], [], ⟨rfl, by simp⟩, rfl, rfl⟩
  | cons item rest ih =>
      unfold itemsRequests at sent
      cases first : itemRequests libraries (reads index) item with
      | error error =>
          rw [first] at sent
          cases messages with
          | nil => cases sent
          | cons message messages => cases sent
      | ok yielded =>
          simp only [first, List.map_append, List.map_map] at sent
          obtain ⟨data, group, readable, rfl, same⟩ := itemRequests_group first
          obtain ⟨before, after, rfl, early, late⟩ := List.append_eq_map_iff.mp sent
          obtain rfl : group.messages = before := by
            apply List.map_injective_iff.mpr (fun _ _ => Except.ok.inj)
            exact early.symm
          obtain ⟨datas, groups, others, rfl, samples⟩ := ih late.symm
          refine ⟨data :: datas, group :: groups, ⟨by simp [others.1], ?_⟩, rfl, ?_⟩
          · intro number found bytes foundItem foundData
            cases number with
            | zero =>
                cases foundItem
                cases foundData
                exact readable
            | succ number =>
                have later := others.2 number found bytes foundItem foundData
                rwa [show index + 1 + number = index + (number + 1) by omega] at later
          · rw [List.map_cons, List.zipWith_cons_cons, same, samples]

/-- From the client to the chat: when `reply_media` returns without an error and the last write of
each file completes, every item was read, and the intents of the action that the server has enqueued
offer the items in order, each with its own name, type and bytes, in the mode the caller chose or
the one that fits their number. -/
theorem replyMedia_shares {channelId : Int64} {file : MediaFilesInput}
    {name mode mime : Option String}
    {stream : List (Except PyException SendMediaByChunkRequest)}
    (lawful : url.Lawful form) (plain : PlainPaths service world)
    (settled : LastWritesComplete world.io (stream.map (Except.mapError transport)))
    (sent : replyMedia libraries reads channelId file name mode mime = .ok stream)
    (answered : (handle service world shared
      (.sendMediaByChunk (stream.map (Except.mapError transport)))).result = some (.ok .empty)) :
    ∃ items datas, normalize libraries file name mime = .ok items ∧
      ReadsAs reads 0 items datas ∧
      Uploaded url form referer shared
        (handle service world shared
          (.sendMediaByChunk (stream.map (Except.mapError transport))))
        channelId (mediaModeOf mode items.length) (List.zipWith SentFile.ofItem items datas) := by
  obtain ⟨messages, metadata, selected, groups, taken, wellFormed, uploaded⟩ :=
    @uploaded_sendMediaByChunk _ service world shared url form referer lawful plain _ settled
      answered
  unfold replyMedia at sent
  split at sent
  · cases sent
  cases normalized : normalize libraries file name mime with
  | error error =>
      rw [normalized] at sent
      cases sent
  | ok items =>
      simp only [normalized, bind, Except.bind, pure, Except.pure, Except.ok.injEq] at sent
      have start := wellFormed.messages_eq
      subst sent start
      unfold requests at taken
      cases counted : libraries.uint32 items.length with
      | error error =>
          rw [counted] at taken
          cases taken
      | ok fileCount =>
          simp only [counted, List.map_cons, List.cons.injEq] at taken
          obtain ⟨first, rest⟩ := taken
          obtain ⟨datas, others, readable, same, files⟩ := itemsRequests_groups rest
          obtain rfl := groups_unique same
          cases first
          refine ⟨items, datas, rfl, readable, ?_⟩
          have chosen := wellFormed.mode_eq
          rw [MediaMode.tryFrom_number] at chosen
          cases chosen
          rw [← files]
          exact uploaded

/-- A stream and a named file. -/
def twoItems : List Client.MediaFile :=
  [⟨.stream, none, none⟩, ⟨.bytes [3], some "b.png", some " "⟩]

/-- The two items of the reply can be read. -/
theorem twoItems_readable : ReadsAs (fun _ => .bytes [1, 2]) 0 twoItems [[1, 2], [3]] := by
  refine ⟨rfl, ?_⟩
  intro number item data foundItem foundData
  rcases number with _ | _ | number
  · cases foundItem
    cases foundData
    rfl
  · cases foundItem
    cases foundData
    rfl
  · simp [twoItems] at foundItem

/-- What `reply_media` sends for them, which is their requests. -/
def twoItemsStream : List (Except PyException SendMediaByChunkRequest) :=
  (sentMessages 7 none twoItems [[1, 2], [3]]).map .ok

/-- The two items are sent without a mode, and shared together. -/
theorem replyMedia_shares_twoItems :
    ∃ items datas, normalize plainLibraries
        (.many [.input .stream, .file ⟨.bytes [3], some "b.png", some " "⟩]) none none =
          .ok items ∧
      ReadsAs (fun _ => .bytes [1, 2]) 0 items datas ∧
      Uploaded percentUrl percent "referer" quietServer.shared
        (handle quietService quietCall quietServer.shared (.sendMediaByChunk
          (twoItemsStream.map (Except.mapError fun _ => .internal "cancelled"))))
        7 (mediaModeOf none items.length) (List.zipWith SentFile.ofItem items datas) := by
  have stored := (@sentMessages_ok_iff 7 none twoItems [[1, 2], [3]] quietService.tempDir
    quietCall.directory _ _ tallyName tallyName_injective rfl (by decide) (by simp)).mpr
    ⟨⟨by simp [twoItems], by simp⟩, rfl, rfl⟩
  have delivered : twoItemsStream.map (Except.mapError fun _ => Status.internal "cancelled") =
      (sentMessages 7 none twoItems [[1, 2], [3]]).map .ok := by
    rw [twoItemsStream, List.map_map]
    rfl
  have sent : replyMedia plainLibraries (fun _ => .bytes [1, 2]) 7
      (.many [.input .stream, .file ⟨.bytes [3], some "b.png", some " "⟩]) none none none =
      .ok twoItemsStream :=
    replyMedia_eq (.inl rfl) rfl twoItems_readable (by decide) (by simp)
  refine replyMedia_shares percentUrl_lawful quiet_plainPaths
    (lastWritesComplete_of_completed (fun _ _ => rfl) _) sent ?_
  rw [delivered]
  exact answered_of_storeChunks stored rfl

end FromClient

end Arisa.Service
