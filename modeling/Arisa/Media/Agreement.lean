import Arisa.Media.Store

/-!
# The two uploads agree

A list of files can be sent whole, or as metadata and one group of chunks for
each file. The groups are complete exactly when the files are not empty, and
these are the lists that `store` takes.
-/

namespace Arisa.Media

open Arisa.Proto Arisa.Std

/-- A way of cutting a file's data into chunks: the file is complete at the last one only. -/
structure Splits (data : Bytes) (chunks : List Bytes) : Prop where
  flatten_eq : chunks.flatten = data
  before : data ≠ [] → chunks.dropLast.flatten.length < data.length

/-- The messages for one file. -/
def fileGroup (file : Proto.MediaFile) (chunks : List Bytes) : Group :=
  ⟨⟨file.name.getD "", UInt64.ofNat file.data.length, file.mime⟩, chunks⟩

/-- The chunked upload of a list of files. -/
def chunkedUpload (channelId : Int64) (mode : MediaMode) (files : List Proto.MediaFile)
    (splits : List (List Bytes)) : List SendMediaByChunkRequest :=
  ⟨some (.metadata ⟨channelId, UInt32.ofNat files.length, mode.number⟩)⟩ ::
    (List.zipWith fileGroup files splits).flatMap Group.messages

/-- A file that is cut into chunks is complete unless it is empty. -/
theorem fileGroup_complete_iff {file : Proto.MediaFile} {chunks : List Bytes}
    (cut : Splits file.data chunks) (representable : file.data.length < 2 ^ 64) :
    (fileGroup file chunks).Complete ↔ file.data ≠ [] :=
  Group.complete_iff_ne_nil (UInt64.toNat_ofNat_of_lt representable) cut.flatten_eq cut.before

/-- All groups are complete exactly when no file is empty. -/
theorem fileGroups_complete_iff {files : List Proto.MediaFile} {splits : List (List Bytes)}
    (cut : List.Forall₂ (fun file chunks => Splits file.data chunks) files splits)
    (representable : ∀ file ∈ files, file.data.length < 2 ^ 64) :
    (∀ group ∈ List.zipWith fileGroup files splits, group.Complete) ↔
      ∀ file ∈ files, file.data ≠ [] := by
  induction cut with
  | nil => simp
  | @cons file chunks files splits first rest ih =>
      obtain ⟨fits, othersFit⟩ := List.forall_mem_cons.mp representable
      rw [List.zipWith_cons_cons, List.forall_mem_cons, List.forall_mem_cons,
        fileGroup_complete_iff first fits, ih othersFit]

/-- What `store_chunks` does with the chunked upload of a list. -/
theorem chunkedUpload_ok_iff {uuid : Nat → String} {distinct : Function.Injective uuid}
    {path : String} {directory after : Directory} {channelId : Int64} {mode : MediaMode}
    {files : List Proto.MediaFile} {splits : List (List Bytes)} {media : StoredMedia}
    (cut : List.Forall₂ (fun file chunks => Splits file.data chunks) files splits)
    (count : files.length < 2 ^ 32)
    (representable : ∀ file ∈ files, file.data.length < 2 ^ 64) :
    storeChunks (.healthy uuid distinct) path directory
        ((chunkedUpload channelId mode files splits).map .ok) = (.ok media, after) ↔
      (files ≠ [] ∧ ∀ file ∈ files, file.data ≠ []) ∧
        media = ⟨channelId,
          storedFiles (.healthy uuid distinct) path (List.zipWith fileGroup files splits),
          decide (mode = .multiple)⟩ ∧
        after = written (.healthy uuid distinct) path (List.zipWith fileGroup files splits)
          directory := by
  have groupsLength : (List.zipWith fileGroup files splits).length = files.length := by
    rw [List.length_zipWith, ← cut.length_eq, Nat.min_self]
  have counted : (UInt32.ofNat files.length).toNat =
      (List.zipWith fileGroup files splits).length := by
    rw [groupsLength]
    exact UInt32.toNat_ofNat_of_lt count
  have present : List.zipWith fileGroup files splits ≠ [] ↔ files ≠ [] := by
    rw [← List.length_pos_iff, groupsLength, List.length_pos_iff]
  rw [chunkedUpload, healthy_groups_iff uuid distinct (MediaMode.tryFrom_number _) counted,
    present, fileGroups_complete_iff cut representable]

/-- A `store` that succeeded has saved every file. -/
theorem saved_of_store {io : StoreIo} {path : String} {before : Directory}
    {files : List Proto.MediaFile} {stored : List MediaFile}
    (succeeded : (store io path before files).1 = .ok stored) :
    Saved io path before files stored (store io path before files).2 := by
  rcases store_ends io path before files with ⟨-, error, failed⟩ |
    ⟨-, -, final, after, returned, saved⟩ | ⟨error, left, number, file, -, failed, -⟩
  · rw [failed] at succeeded
    cases succeeded
  · rw [returned] at succeeded ⊢
    cases succeeded
    exact saved
  · rw [failed] at succeeded
    cases succeeded

/-- Where no write fails, `store` takes the lists without an empty file, except the empty one. -/
theorem healthy_store_succeeds_iff {uuid : Nat → String} {distinct : Function.Injective uuid}
    {path : String} {before : Directory} {files : List Proto.MediaFile} :
    Succeeds (store (.healthy uuid distinct) path before files).1 ↔
      files ≠ [] ∧ ∀ file ∈ files, file.data ≠ [] := by
  rcases store_ends (.healthy uuid distinct) path before files with ⟨rfl, error, failed⟩ |
    ⟨nonempty, all, stored, after, returned, -⟩ | ⟨error, left, number, file, stops, failed, -⟩
  · simp [failed]
  · rw [returned]
    refine iff_of_true (succeeds_ok stored) ⟨nonempty, fun file member => ?_⟩
    obtain ⟨number, bound, rfl⟩ := List.getElem_of_mem member
    exact (all number _ (List.getElem?_eq_getElem bound)).1
  · rw [failed]
    refine iff_of_false (not_succeeds_error error) ?_
    rintro ⟨-, filled⟩
    exact stops.stops ⟨filled file (List.mem_of_getElem? stops.found), rfl⟩

/-- The files of a list are taken whole exactly when they are taken in chunks, however these are
cut, and then stored with the same bytes, type and name, except that an empty name is dropped. -/
theorem store_agrees (uuid chunkedUuid : Nat → String) (distinct : Function.Injective uuid)
    (chunkedDistinct : Function.Injective chunkedUuid) (path chunkedPath : String)
    (directory chunkedDirectory : Directory) (channelId : Int64) (mode : MediaMode)
    (files : List Proto.MediaFile) (splits : List (List Bytes))
    (cut : List.Forall₂ (fun file chunks => Splits file.data chunks) files splits)
    (count : files.length < 2 ^ 32)
    (representable : ∀ file ∈ files, file.data.length < 2 ^ 64) :
    let unary := store (.healthy uuid distinct) path directory files
    let chunked := storeChunks (.healthy chunkedUuid chunkedDistinct) chunkedPath chunkedDirectory
      ((chunkedUpload channelId mode files splits).map .ok)
    (Succeeds unary.1 ↔ Succeeds chunked.1) ∧
    ∀ stored media, unary.1 = .ok stored → chunked.1 = .ok media →
      stored.length = files.length ∧ media.files.length = files.length ∧
      ∀ (number : Nat) (file : Proto.MediaFile) (left right : MediaFile),
        files[number]? = some file → stored[number]? = some left →
        media.files[number]? = some right →
        unary.2 left.path = some file.data ∧ chunked.2 right.path = some file.data ∧
        right.mime = left.mime ∧ left.name = file.name ∧
        right.name = if left.name = some "" then none else left.name := by
  intro unary chunked
  have outcome := fun {media} =>
    @chunkedUpload_ok_iff chunkedUuid chunkedDistinct chunkedPath chunkedDirectory chunked.2
      channelId mode files splits media cut count representable
  refine ⟨?_, ?_⟩
  · rw [healthy_store_succeeds_iff]
    constructor
    · intro sendable
      have accepted : chunked = _ :=
        (chunkedUpload_ok_iff cut count representable).mpr ⟨sendable, rfl, rfl⟩
      exact ⟨_, by rw [accepted]⟩
    · rintro ⟨media, accepted⟩
      exact (outcome.mp (Prod.ext accepted rfl : chunked = (.ok media, chunked.2))).1
  · intro stored media succeeded accepted
    have saved := saved_of_store succeeded
    obtain ⟨⟨-, filled⟩, mediaEq, afterEq⟩ :=
      outcome.mp (Prod.ext accepted rfl : chunked = (.ok media, chunked.2))
    subst mediaEq
    refine ⟨saved.length_eq, ?_, ?_⟩
    · rw [length_storedFiles, List.length_zipWith, ← cut.length_eq, Nat.min_self]
    · intro number file left right foundFile foundLeft foundRight
      obtain ⟨bound, rfl⟩ := List.getElem?_eq_some_iff.mp foundFile
      have within := cut.length_eq ▸ bound
      have split := cut.get bound within
      have found : (List.zipWith fileGroup files splits)[number]? =
          some (fileGroup files[number] splits[number]) := by
        simp [bound, within]
      have complete := (fileGroups_complete_iff cut representable).mpr filled
      simp only [storedFiles, List.getElem?_mapIdx, found, Option.map_some,
        Option.some.injEq] at foundRight
      simp only [saved.stored_eq, List.getElem?_mapIdx, foundFile, Option.map_some,
        Option.some.injEq] at foundLeft
      subst foundRight foundLeft
      refine ⟨saved.holds number _ foundFile, ?_, rfl, rfl, storeName_getD _⟩
      rw [afterEq, mediaFile, healthy_written chunkedUuid chunkedDistinct found
        (complete _ (List.mem_of_getElem? found))]
      exact congrArg some split.flatten_eq

/-- A named file in two chunks with empty ones between them, and one with an empty name. -/
theorem store_agrees_twoFiles :
    ∃ stored media,
      (store (.healthy tallyName tallyName_injective) "/media" (fun _ => none)
        [⟨some "a.bin", "", [1, 2]⟩, ⟨some "", "image/png", [3]⟩]).1 = .ok stored ∧
      (storeChunks (.healthy tallyName tallyName_injective) "/media" (fun _ => none)
        ((chunkedUpload 7 .multiple [⟨some "a.bin", "", [1, 2]⟩, ⟨some "", "image/png", [3]⟩]
          [[[], [1], [], [2]], [[3]]]).map .ok)).1 = .ok media ∧
      stored.length = 2 ∧ media.files.length = 2 := by
  have cut : List.Forall₂ (fun file chunks => Splits (Proto.MediaFile.data file) chunks)
      [⟨some "a.bin", "", [1, 2]⟩, ⟨some "", "image/png", [3]⟩]
      [[[], [1], [], [2]], [[3]]] :=
    .cons ⟨rfl, by decide⟩ (.cons ⟨rfl, by decide⟩ .nil)
  obtain ⟨succeeds, same⟩ := store_agrees tallyName tallyName tallyName_injective
    tallyName_injective "/media" "/media" (fun _ => none) (fun _ => none) 7 .multiple _ _ cut
    (by decide) (by simp)
  have taken : Succeeds (store (.healthy tallyName tallyName_injective) "/media" (fun _ => none)
      [⟨some "a.bin", "", [1, 2]⟩, ⟨some "", "image/png", [3]⟩]).1 :=
    healthy_store_succeeds_iff.mpr (by simp)
  obtain ⟨media, accepted⟩ := succeeds.mp taken
  obtain ⟨stored, succeeded⟩ := taken
  obtain ⟨left, right, -⟩ := same stored media succeeded accepted
  exact ⟨stored, media, succeeded, accepted, left, right⟩

end Arisa.Media
