import Arisa.Media.Acceptance
import Arisa.Std.Except
import Mathlib.Data.List.Basic

/-!
# What a failed upload leaves on disk

At every exit of `store_chunks_inner` the list `stored` names exactly the files
the call has created, so that `remove_stored` takes the directory back to what
it was.
-/

namespace Arisa.Media

open Arisa.Proto Arisa.Std

/-- `Uuid::new_v4` returns names that are not in the directory. -/
def FreshNames (io : Io) (path : String) (directory : Directory) : Prop :=
  ∀ number, directory (joinPath path (io.uuid number)) = none

/-- The files of an upload under way: those in `stored`, and no others, differ
from the directory at its start, where they were absent. -/
structure Upload.Accounts (upload : Upload) (before : Directory) : Prop where
  elsewhere : ∀ name, (∀ file ∈ upload.stored, file.path ≠ name) →
    upload.directory name = before name
  absent : ∀ file ∈ upload.stored, before file.path = none
  current : ∀ current, upload.current = some current →
    ∃ file ∈ upload.stored, file.path = current.file.path

variable {io : Io} {path : String} {expectedCount : Nat} {before : Directory}

/-- Before its first file an upload has made none. -/
theorem Upload.accounts_initial (before : Directory) :
    (⟨before, [], none⟩ : Upload).Accounts before where
  elsewhere _ _ := rfl
  absent := by simp
  current := nofun

/-- `remove_stored` removes the named files and no others. -/
theorem removeStored_apply (files : List MediaFile) (directory : Directory) (name : String) :
    removeStored files directory name =
      if ∃ file ∈ files, file.path = name then none else directory name := by
  induction files generalizing directory with
  | nil => simp [removeStored]
  | cons file rest ih =>
      have step : removeStored (file :: rest) directory =
          removeStored rest (Function.update directory file.path none) := rfl
      rw [step, ih]
      by_cases later : ∃ other ∈ rest, other.path = name
      · simp [later]
      · by_cases here : file.path = name
        · subst here
          simp
        · simp [later, here, Function.update_of_ne (Ne.symm here)]

/-- Removing the files an upload accounts for takes the directory back. -/
theorem Upload.Accounts.removeStored_eq {upload : Upload} (accounts : upload.Accounts before) :
    removeStored upload.stored upload.directory = before := by
  funext name
  rw [removeStored_apply]
  split
  · next named =>
      obtain ⟨file, member, rfl⟩ := named
      exact (accounts.absent file member).symm
  · next unnamed =>
      refine accounts.elsewhere name fun file member same => unnamed ⟨file, member, same⟩

/-- The upload that a step returns, or that its failure carries, is accounted for. -/
def LeavesAccounted (before : Directory) : Except UploadFailure Upload → Prop
  | .ok upload => upload.Accounts before
  | .error failure => failure.upload.Accounts before

/-- A new file is accounted for once it is recorded. -/
theorem Upload.Accounts.record {upload : Upload} (accounts : upload.Accounts before)
    {file : MediaFile} (absent : before file.path = none) (bytes : Bytes)
    {current : Option CurrentFile}
    (recorded : ∀ last, current = some last → last.file.path = file.path) :
    (⟨Function.update upload.directory file.path (some bytes), upload.stored ++ [file],
      current⟩ : Upload).Accounts before := by
  refine ⟨fun name unnamed => ?_, fun other member => ?_, fun last same => ?_⟩
  · have different : name ≠ file.path := by
      rintro rfl
      exact unnamed file (List.mem_append_right _ (List.mem_singleton_self _)) rfl
    refine (Function.update_of_ne different _ _).trans (accounts.elsewhere name ?_)
    exact fun other member => unnamed other (List.mem_append_left _ member)
  · rcases List.mem_append.mp member with earlier | new
    · exact accounts.absent other earlier
    · rw [List.mem_singleton.mp new]
      exact absent
  · exact ⟨file, List.mem_append_right _ (List.mem_singleton_self _),
      (recorded last same).symm⟩

/-- A file metadata message creates a file and records it, or fails as it stood. -/
theorem Upload.Accounts.receiveFileMetadata {upload : Upload} (accounts : upload.Accounts before)
    (fresh : FreshNames io path before) (metadata : MediaFileMetadata) :
    LeavesAccounted before (upload.receiveFileMetadata io path expectedCount metadata) := by
  unfold Upload.receiveFileMetadata
  split_ifs with incomplete exceeds empty
  · exact accounts
  · exact accounts
  · exact accounts
  · simp only
    cases created : io.create upload.stored.length with
    | some error => exact accounts
    | none =>
        have absent : before (mediaFile io path upload.stored.length metadata).path = none :=
          fresh _
        refine accounts.record absent [] ?_
        rintro _ ⟨⟩
        rfl

/-- Waiting for a write does not move the file. -/
theorem File.awaitInFlight_path {file next : File} (waited : file.awaitInFlight io = .ok next) :
    next.path = file.path := by
  unfold File.awaitInFlight at waited
  split at waited
  · cases waited
    rfl
  · split at waited
    · cases waited
    · cases waited
      rfl

/-- The handle of a file keeps its path through a write. -/
theorem File.writeAll_path {file next : File} {bytes : Bytes}
    (written : file.writeAll io bytes = .ok next) : next.path = file.path := by
  unfold File.writeAll at written
  split at written
  · cases written
    rfl
  · obtain ⟨ready, waited, taken⟩ := bind_eq_ok.mp written
    rw [← File.awaitInFlight_path waited]
    split at taken
    · cases taken
    · cases taken
      rfl

/-- A chunk changes the current file only, which is recorded, or fails as it stood. -/
theorem Upload.Accounts.receiveChunk {upload : Upload} (accounts : upload.Accounts before)
    (chunk : Bytes) : LeavesAccounted before (upload.receiveChunk io chunk) := by
  unfold Upload.receiveChunk
  cases current : upload.current with
  | none => exact accounts
  | some file =>
      simp only
      cases tryFromLength chunk.length with
      | none => exact accounts
      | some chunkSize =>
          simp only
          cases checkedAdd file.receivedSize chunkSize with
          | none => exact accounts
          | some receivedSize =>
              simp only
              by_cases exceeds : receivedSize > file.expectedSize
              · rw [if_pos exceeds]
                exact accounts
              rw [if_neg exceeds]
              cases written : file.file.writeAll io chunk with
              | error error => exact accounts
              | ok next =>
                  obtain ⟨recorded, member, same⟩ := accounts.current file current
                  have path : recorded.path = next.path :=
                    same.trans (File.writeAll_path written).symm
                  refine ⟨fun name unnamed => ?_, accounts.absent, ?_⟩
                  · have other : name ≠ next.path := by
                      rintro rfl
                      exact unnamed recorded member path
                    exact (Function.update_of_ne other _ _).trans
                      (accounts.elsewhere name unnamed)
                  · intro last kept
                    simp only at kept
                    split at kept
                    · cases kept
                    · cases kept
                      exact ⟨recorded, member, path⟩

/-- A message keeps the account, whether it is taken or refused. -/
theorem Upload.Accounts.receive {upload : Upload} (accounts : upload.Accounts before)
    (fresh : FreshNames io path before) (message : SendMediaByChunkRequest) :
    LeavesAccounted before (upload.receive io path expectedCount message) := by
  unfold Upload.receive
  cases message.payload with
  | none => exact accounts
  | some payload =>
      cases payload with
      | metadata => exact accounts
      | fileMetadata metadata => exact accounts.receiveFileMetadata fresh metadata
      | chunk chunk => exact accounts.receiveChunk chunk

/-- However the message loop ends, `stored` accounts for every file it created. -/
theorem Upload.Accounts.receiveAll {upload : Upload} (accounts : upload.Accounts before)
    (fresh : FreshNames io path before)
    (stream : List (Except Status SendMediaByChunkRequest)) :
    LeavesAccounted before (upload.receiveAll io path expectedCount stream) := by
  induction stream generalizing upload with
  | nil =>
      unfold Upload.receiveAll
      split_ifs <;> exact accounts
  | cons item rest ih =>
      cases item with
      | error status => exact accounts
      | ok message =>
          have step : LeavesAccounted before (upload.receive io path expectedCount message) :=
            accounts.receive fresh message
          unfold Upload.receiveAll
          cases received : upload.receive io path expectedCount message with
          | error failure =>
              rw [received] at step
              exact step
          | ok next =>
              rw [received] at step
              exact ih step

/-- So when an upload fails, its list of files has all that it has made. -/
theorem storeChunksInner_accounts {stream : List (Except Status SendMediaByChunkRequest)}
    {failure : UploadFailure} (fresh : FreshNames io path before)
    (failed : storeChunksInner io path before stream = .error failure) :
    failure.upload.Accounts before := by
  have initial := Upload.accounts_initial before
  unfold storeChunksInner at failed
  simp only at failed
  split at failed
  · cases failed
    exact initial
  · cases failed
    exact initial
  next first rest =>
    split at failed
    · next metadata _ =>
        split_ifs at failed with counted
        · cases failed
          exact initial
        · have left : LeavesAccounted before
              (Upload.receiveAll io path metadata.fileCount.toNat ⟨before, [], none⟩ rest) :=
            initial.receiveAll fresh rest
          split at failed
          · cases failed
            exact initial
          · split at failed
            · next stopped =>
                cases failed
                rw [stopped] at left
                exact left
            · cases failed
    · cases failed
      exact initial

/-- A failed upload leaves the directory as it was, whatever the messages and wherever the stream
breaks off, and whichever creations and writes fail. -/
theorem storeChunks_error_restores (io : Io) (path : String) (before after : Directory)
    (stream : List (Except Status SendMediaByChunkRequest)) {status : Status}
    (fresh : FreshNames io path before)
    (failed : storeChunks io path before stream = (.error status, after)) : after = before := by
  unfold storeChunks at failed
  cases inner : storeChunksInner io path before stream with
  | ok stored =>
      rw [inner] at failed
      cases failed
  | error failure =>
      rw [inner] at failed
      cases failed
      exact (storeChunksInner_accounts fresh inner).removeStored_eq

/-- A system on which the second file of a call cannot be created. -/
def secondCreationFails : Io :=
  { Io.healthy tallyName tallyName_injective with
    create := fun number => if number = 1 then some ⟨"No space left on device"⟩ else none }

/-- One earlier upload is still in the directory. -/
def earlierUpload : Directory :=
  fun name => if name = "/media/kept" then some [5] else none

/-- The names of the example are not those of the earlier upload. -/
theorem earlierUpload_fresh : FreshNames secondCreationFails "/media" earlierUpload := by
  intro number
  have other : joinPath "/media" (tallyName number) ≠ joinPath "/media" "kept" := by
    intro same
    have letters := congrArg String.toList (joinPath_injective "/media" same)
    have first : 'k' ∈ (tallyName number).toList := by
      rw [letters]
      decide
    rw [tallyName, String.toList_ofList] at first
    exact absurd (List.eq_of_mem_replicate first) (by decide)
  exact if_neg other

/-- Two files, announced and sent. -/
def twoFilesStream : List (Except Status SendMediaByChunkRequest) :=
  [.ok ⟨some (.metadata ⟨7, 2, 1⟩)⟩, .ok (fileMetadataMessage ⟨"a.bin", 1, ""⟩),
    .ok (chunkMessage [1]), .ok (fileMetadataMessage ⟨"b.bin", 1, ""⟩)]

/-- The first of two files is stored before the second cannot be created. -/
theorem storeChunks_error_secondCreation :
    ∃ status after,
      storeChunks secondCreationFails "/media" earlierUpload twoFilesStream =
        (.error status, after) ∧
      after = earlierUpload := by
  have failed : storeChunks secondCreationFails "/media" earlierUpload twoFilesStream =
      (.error (storeError ⟨"No space left on device"⟩), _) := rfl
  exact ⟨_, _, failed, storeChunks_error_restores _ _ _ _ _ earlierUpload_fresh failed⟩

end Arisa.Media
