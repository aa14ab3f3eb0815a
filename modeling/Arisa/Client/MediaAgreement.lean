import Arisa.Client.Media
import Arisa.Media.Acceptance

/-!
# Client and server agree on the chunked upload

The requests of `reply_media` are metadata and one group for each item. The
slices of the item's data partition it and none is empty, so the group is
complete exactly when the data is not empty.
-/

namespace Arisa.Client

open Arisa.Proto Arisa.Std Arisa.Media

/-- The group that carries one item. -/
def itemGroup (item : MediaFile) (data : Bytes) : Group :=
  ⟨⟨item.name.getD "", UInt64.ofNat data.length, item.mime.getD ""⟩,
    slices mediaChunkSize data⟩

/-- A chunk is not empty. -/
theorem mediaChunkSize_pos : 0 < mediaChunkSize := by
  decide

/-- The chunks of an item are its bytes. -/
theorem bytes_itemGroup (item : MediaFile) (data : Bytes) : (itemGroup item data).bytes = data :=
  flatten_slices mediaChunkSize_pos data

/-- The slicing never leaves a chunk behind a complete file. -/
theorem itemGroup_complete_iff (item : MediaFile) {data : Bytes}
    (representable : data.length < 2 ^ 64) :
    (itemGroup item data).Complete ↔ data ≠ [] := by
  apply Group.complete_iff_ne_nil _ (bytes_itemGroup item data)
  · intro nonempty
    have filled : 0 < data.length := List.length_pos_iff.mpr nonempty
    rcases List.eq_nil_or_concat (slices mediaChunkSize data) with none | ⟨first, last, split⟩
    · rw [itemGroup, none]
      exact filled
    · rw [List.concat_eq_append] at split
      have total : (slices mediaChunkSize data).flatten.length = data.length := by
        rw [flatten_slices mediaChunkSize_pos]
      have lastNonempty : last ≠ [] := by
        apply ne_nil_of_mem_slices mediaChunkSize_pos data last
        rw [split]
        exact List.mem_append_right _ (List.mem_singleton_self last)
      have lastFilled : 0 < last.length := List.length_pos_iff.mpr lastNonempty
      rw [split, List.flatten_append, List.flatten_singleton, List.length_append] at total
      rw [itemGroup, split, List.dropLast_concat]
      omega
  · exact UInt64.toNat_ofNat_of_lt representable

variable {libraries : Libraries} {reads : Nat → ReadResult}

/-- The items from number `index` on are read as `datas`. -/
def ReadsAs (reads : Nat → ReadResult) (index : Nat) (items : List MediaFile)
    (datas : List Bytes) : Prop :=
  items.length = datas.length ∧ ∀ (number : Nat) (item : MediaFile) (data : Bytes),
    items[number]? = some item → datas[number]? = some data →
    read (reads (index + number)) item = .ok data

/-- The requests of an item are the messages of its group. -/
theorem itemRequests_eq {item : MediaFile} {data : Bytes} {result : ReadResult}
    (readable : read result item = .ok data) (representable : data.length < 2 ^ 64) :
    itemRequests libraries result item = .ok (itemGroup item data).messages := by
  simp only [itemRequests, readable, libraries.uint64_ok data.length representable, bind,
    Except.bind, pure, Except.pure, Group.messages, itemGroup]
  rfl

/-- Without a failing read, the loop yields the groups of the items in order. -/
theorem itemsRequests_eq {index : Nat} {items : List MediaFile} {datas : List Bytes}
    (readable : ReadsAs reads index items datas)
    (representable : ∀ data ∈ datas, data.length < 2 ^ 64) :
    itemsRequests libraries reads index items =
      ((List.zipWith itemGroup items datas).flatMap Group.messages).map .ok := by
  induction items generalizing index datas with
  | nil => rfl
  | cons item items ih =>
      obtain ⟨lengths, each⟩ := readable
      rcases datas with _ | ⟨data, datas⟩
      · simp at lengths
      obtain ⟨fits, othersFit⟩ := List.forall_mem_cons.mp representable
      have here := each 0 item data rfl rfl
      have rest : ReadsAs reads (index + 1) items datas := by
        refine ⟨by simpa using lengths, ?_⟩
        intro number other otherData foundItem foundData
        have found := each (number + 1) other otherData (by simpa using foundItem)
          (by simpa using foundData)
        rwa [show index + (number + 1) = index + 1 + number by omega] at found
      rw [Nat.add_zero] at here
      simp only [itemsRequests, itemRequests_eq here fits, ih rest othersFit,
        List.zipWith_cons_cons, List.flatMap_cons, List.map_append]

/-- The groups of the items, and when all of them are complete. -/
theorem zipWith_complete_iff {items : List MediaFile} {datas : List Bytes}
    (lengths : items.length = datas.length)
    (representable : ∀ data ∈ datas, data.length < 2 ^ 64) :
    (∀ group ∈ List.zipWith itemGroup items datas, group.Complete) ↔
      ∀ data ∈ datas, data ≠ [] := by
  induction items generalizing datas with
  | nil =>
      rcases datas with _ | ⟨data, datas⟩
      · simp
      · simp at lengths
  | cons item items ih =>
      rcases datas with _ | ⟨data, datas⟩
      · simp at lengths
      obtain ⟨fits, othersFit⟩ := List.forall_mem_cons.mp representable
      rw [List.zipWith_cons_cons, List.forall_mem_cons, List.forall_mem_cons,
        itemGroup_complete_iff item fits, ih (by simpa using lengths) othersFit]

/-- Several files are sent as such where the caller says so, or says nothing. -/
theorem mediaModeOf_eq_multiple {mode : Option String} {count : Nat}
    (known : mode = none ∨ mode = some "single" ∨ mode = some "multiple") :
    mediaModeOf mode count = .multiple ↔
      mode = some "multiple" ∨ (mode = none ∧ 1 < count) := by
  rcases known with rfl | rfl | rfl
  · by_cases several : 1 < count
    · simp [mediaModeOf, orElse, several]
    · simp [mediaModeOf, orElse, several]
  · simp [mediaModeOf, orElse]
  · simp [mediaModeOf, orElse]

/-- What `reply_media` sends for items read as `datas`. -/
def sentMessages (channelId : Int64) (mode : Option String) (items : List MediaFile)
    (datas : List Bytes) : List SendMediaByChunkRequest :=
  ⟨some (.metadata ⟨channelId, UInt32.ofNat items.length,
    (mediaModeOf mode items.length).number⟩)⟩ ::
    (List.zipWith itemGroup items datas).flatMap Group.messages

/-- What the server does with the messages sent. -/
theorem sentMessages_ok_iff {channelId : Int64} {mode : Option String} {items : List MediaFile}
    {datas : List Bytes} {path : String} {directory after : Directory}
    {media : StoredMedia} (uuid : Nat → String) (distinct : Function.Injective uuid)
    (lengths : items.length = datas.length) (count : items.length < 2 ^ 32)
    (representable : ∀ data ∈ datas, data.length < 2 ^ 64) :
    storeChunks (.healthy uuid distinct) path directory
        ((sentMessages channelId mode items datas).map .ok) = (.ok media, after) ↔
      (items ≠ [] ∧ ∀ data ∈ datas, data ≠ []) ∧
        media = ⟨channelId,
          storedFiles (.healthy uuid distinct) path (List.zipWith itemGroup items datas),
          decide (mediaModeOf mode items.length = .multiple)⟩ ∧
        after = written (.healthy uuid distinct) path (List.zipWith itemGroup items datas)
          directory := by
  have groupsLength : (List.zipWith itemGroup items datas).length = items.length := by
    rw [List.length_zipWith, ← lengths, Nat.min_self]
  have counted : (UInt32.ofNat items.length).toNat =
      (List.zipWith itemGroup items datas).length := by
    rw [groupsLength]
    exact UInt32.toNat_ofNat_of_lt count
  have present : List.zipWith itemGroup items datas ≠ [] ↔ items ≠ [] := by
    rw [← List.length_pos_iff, groupsLength, List.length_pos_iff]
  rw [sentMessages, healthy_groups_iff uuid distinct (MediaMode.tryFrom_number _) counted,
    present, zipWith_complete_iff lengths representable]

/-- The request stream of `reply_media` when every item can be read. -/
theorem replyMedia_eq {channelId : Int64} {file : MediaFilesInput} {name mode mime : Option String}
    {items : List MediaFile} {datas : List Bytes}
    (known : mode = none ∨ mode = some "single" ∨ mode = some "multiple")
    (normalized : normalize libraries file name mime = .ok items)
    (readable : ReadsAs reads 0 items datas) (count : items.length < 2 ^ 32)
    (representable : ∀ data ∈ datas, data.length < 2 ^ 64) :
    replyMedia libraries reads channelId file name mode mime =
      .ok ((sentMessages channelId mode items datas).map .ok) := by
  have accepted : ¬ (mode ≠ none ∧ mode ≠ some "single" ∧ mode ≠ some "multiple") := by
    rintro ⟨given, notSingle, notMultiple⟩
    rcases known with none | single | multiple
    · exact given none
    · exact notSingle single
    · exact notMultiple multiple
  simp only [replyMedia, accepted, if_false, normalized, bind, Except.bind, pure, Except.pure,
    requests, libraries.uint32_ok items.length count, itemsRequests_eq readable representable,
    sentMessages, List.map_cons]

/-- The server accepts what the client sends exactly when there is an item and
none is empty, and then stores it byte for byte. -/
theorem replyMedia_agrees (libraries : Libraries) (reads : Nat → ReadResult) (channelId : Int64)
    (file : MediaFilesInput) (name mode mime : Option String) (items : List MediaFile)
    (datas : List Bytes)
    (known : mode = none ∨ mode = some "single" ∨ mode = some "multiple")
    (normalized : normalize libraries file name mime = .ok items)
    (readable : ReadsAs reads 0 items datas) (count : items.length < 2 ^ 32)
    (representable : ∀ data ∈ datas, data.length < 2 ^ 64)
    (uuid : Nat → String) (distinct : Function.Injective uuid) (path : String)
    (directory : Directory) (transport : PyException → Status) :
    ∃ stream, replyMedia libraries reads channelId file name mode mime = .ok stream ∧
      let result := storeChunks (.healthy uuid distinct) path directory
        (stream.map (Except.mapError transport))
      ((∃ media, result.1 = .ok media) ↔ items ≠ [] ∧ ∀ data ∈ datas, data ≠ []) ∧
      ∀ media, result.1 = .ok media →
        media.channelId = channelId ∧ media.files.length = items.length ∧
        (media.multiple = true ↔ mode = some "multiple" ∨ (mode = none ∧ 1 < items.length)) ∧
        ∀ (number : Nat) (stored : Media.MediaFile) (item : MediaFile) (data : Bytes),
          media.files[number]? = some stored → items[number]? = some item →
          datas[number]? = some data →
          result.2 stored.path = some data ∧
          stored.name = (if item.name = none ∨ item.name = some "" then none else item.name) ∧
          stored.mime = (if isBlank (item.mime.getD "") then "application/octet-stream"
            else item.mime.getD "") := by
  refine ⟨_, replyMedia_eq known normalized readable count representable, ?_⟩
  have delivered : ∀ messages : List SendMediaByChunkRequest,
      (messages.map Except.ok).map (Except.mapError transport) = messages.map .ok := by
    simp [Except.mapError, Function.comp]
  rw [delivered]
  intro result
  have outcome := fun {media} =>
    @sentMessages_ok_iff channelId mode items datas path directory result.2 media uuid distinct
      readable.1 count representable
  refine ⟨⟨?_, ?_⟩, ?_⟩
  · rintro ⟨media, accepted⟩
    exact (outcome.mp (Prod.ext accepted rfl : result = (.ok media, result.2))).1
  · intro sendable
    have stored : result = _ :=
      (sentMessages_ok_iff uuid distinct readable.1 count representable).mpr ⟨sendable, rfl, rfl⟩
    exact ⟨_, by rw [stored]⟩
  · intro media accepted
    obtain ⟨⟨-, filled⟩, mediaEq, afterEq⟩ :=
      outcome.mp (Prod.ext accepted rfl : result = (.ok media, result.2))
    subst mediaEq
    refine ⟨rfl, ?_, ?_, ?_⟩
    · rw [length_storedFiles, List.length_zipWith, ← readable.1, Nat.min_self]
    · rw [decide_eq_true_iff, mediaModeOf_eq_multiple known]
    · intro number stored item data foundStored foundItem foundData
      have found : (List.zipWith itemGroup items datas)[number]? = some (itemGroup item data) := by
        simp [List.getElem?_zipWith, foundItem, foundData]
      have complete := (zipWith_complete_iff readable.1 representable).mpr filled
      simp only [storedFiles, List.getElem?_mapIdx, found, Option.map_some,
        Option.some.injEq] at foundStored
      subst foundStored
      rw [afterEq]
      refine ⟨?_, (storeName_getD item.name).trans ?_, rfl⟩
      · rw [mediaFile, healthy_written uuid distinct found
          (complete _ (List.mem_of_getElem? found)), bytes_itemGroup]
      · cases item.name with
        | none => simp
        | some name => simp

/-- Conversions that refuse what the field cannot hold, and no known file types. -/
def plainLibraries : Libraries where
  guessType _ := none
  uint32 value :=
    if value < 2 ^ 32 then .ok (UInt32.ofNat value)
    else .error (.overflowError "value does not fit a uint32")
  uint64 value :=
    if value < 2 ^ 64 then .ok (UInt64.ofNat value)
    else .error (.overflowError "value does not fit a uint64")
  uint32_ok _ bound := if_pos bound
  uint64_ok _ bound := if_pos bound

/-- A stream and a named file, sent without a mode. -/
theorem replyMedia_agrees_twoItems :
    ∃ stream, replyMedia plainLibraries (fun _ => .bytes [1, 2]) 7
        (.many [.input .stream, .file ⟨.bytes [3], some "b.png", some " "⟩]) none none none =
          .ok stream ∧
      ∃ media, (storeChunks (.healthy tallyName tallyName_injective) "/media" (fun _ => none)
        (stream.map (Except.mapError fun _ => .internal "cancelled"))).1 = .ok media ∧
        media.multiple = true := by
  have readable : ReadsAs (fun _ => .bytes [1, 2]) 0
      [⟨.stream, none, none⟩, ⟨.bytes [3], some "b.png", some " "⟩] [[1, 2], [3]] := by
    refine ⟨rfl, ?_⟩
    intro number item data foundItem foundData
    rcases number with _ | _ | number
    · cases foundItem
      cases foundData
      rfl
    · cases foundItem
      cases foundData
      rfl
    · simp at foundItem
  obtain ⟨stream, sent, accepted, stored⟩ := replyMedia_agrees plainLibraries
    (fun _ => .bytes [1, 2]) 7
    (.many [.input .stream, .file ⟨.bytes [3], some "b.png", some " "⟩]) none none none
    [⟨.stream, none, none⟩, ⟨.bytes [3], some "b.png", some " "⟩] [[1, 2], [3]] (.inl rfl) rfl
    readable (by decide) (by simp) tallyName tallyName_injective "/media" (fun _ => none)
    fun _ => .internal "cancelled"
  obtain ⟨media, ok⟩ := accepted.mpr (by simp)
  exact ⟨stream, sent, media, ok, (stored media ok).2.2.1.mpr (.inr ⟨rfl, by simp⟩)⟩

end Arisa.Client
