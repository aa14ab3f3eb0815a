import Arisa.Error
import Arisa.Media.Disk
import Arisa.Proto
import Arisa.Std.Text

/-!
# The chunked upload of `media.rs`

`receiveAll` is the message loop of `store_chunks_inner`, one function for each
arm. A failure carries the state it occurred in, because `store_chunks` removes
the files stored so far.
-/

namespace Arisa.Media

open Arisa.Proto Arisa.Std

def defaultMime : String := "application/octet-stream"

/-- `android::MediaFile`. -/
structure MediaFile where
  path : String
  mime : String
  name : Option String
deriving DecidableEq

structure StoredMedia where
  channelId : Int64
  files : List MediaFile
  multiple : Bool
deriving DecidableEq

structure CurrentFile where
  file : File
  expectedSize : UInt64
  receivedSize : UInt64

/-- The mutable state of an upload and the directory it writes to. -/
structure Upload where
  directory : Directory
  stored : List MediaFile
  current : Option CurrentFile

structure UploadFailure where
  status : Status
  upload : Upload

/-- `directory.join(name)` for a relative name. -/
def joinPath (directory name : String) : String :=
  if directory = "" ∨ directory.toList.getLast? = some '/' then directory ++ name
  else directory ++ "/" ++ name

def storeMime (contentType : String) : String :=
  if isBlank contentType then defaultMime else contentType

def storeName (fileName : String) : Option String :=
  if fileName.isEmpty then none else some fileName

/-- `format!("failed to store media file: {error}")`. -/
def storeError (error : IoError) : Status :=
  .internal ("failed to store media file: " ++ error.message)

/-- `u64::try_from(length)`. -/
def tryFromLength (length : Nat) : Option UInt64 :=
  if length < 2 ^ 64 then some (UInt64.ofNat length) else none

/-- `left.checked_add(right)`. -/
def checkedAdd (left right : UInt64) : Option UInt64 :=
  if left.toNat + right.toNat < 2 ^ 64 then some (left + right) else none

section Receive

variable (io : Io) (path : String) (expectedCount : Nat)

/-- The `FileMetadata` arm. -/
def Upload.receiveFileMetadata (upload : Upload) (fileMetadata : MediaFileMetadata) :
    Except UploadFailure Upload :=
  if upload.current.isSome then
    .error ⟨.invalidArgument "the current media file is incomplete", upload⟩
  else if upload.stored.length ≥ expectedCount then
    .error ⟨.invalidArgument "file count exceeds metadata", upload⟩
  else if fileMetadata.fileSize = 0 then
    .error ⟨.invalidArgument "media files cannot be empty", upload⟩
  else
    let number := upload.stored.length
    let filePath := joinPath path (io.uuid number)
    match io.create number with
    | some error => .error ⟨storeError error, upload⟩
    | none =>
        .ok {
          directory := Function.update upload.directory filePath (some [])
          stored := upload.stored ++
            [⟨filePath, storeMime fileMetadata.contentType, storeName fileMetadata.fileName⟩]
          current := some ⟨File.create filePath number, fileMetadata.fileSize, 0⟩ }

/-- The `Chunk` arm. -/
def Upload.receiveChunk (upload : Upload) (chunk : Bytes) : Except UploadFailure Upload :=
  match upload.current with
  | none => .error ⟨.invalidArgument "file metadata must precede chunks", upload⟩
  | some current =>
      match tryFromLength chunk.length with
      | none => .error ⟨.invalidArgument "media chunk is too large", upload⟩
      | some chunkSize =>
          match checkedAdd current.receivedSize chunkSize with
          | none => .error ⟨.invalidArgument "media file size overflow", upload⟩
          | some receivedSize =>
              if receivedSize > current.expectedSize then
                .error ⟨.invalidArgument "media file exceeds its declared size", upload⟩
              else
                match current.file.writeAll io chunk with
                | .error error => .error ⟨storeError error, upload⟩
                | .ok file =>
                    .ok { upload with
                      directory :=
                        Function.update upload.directory file.path (some (file.contents io))
                      -- `current = None` drops the handle without a flush.
                      current :=
                        if receivedSize = current.expectedSize then none
                        else some { current with file, receivedSize } }

def Upload.receive (upload : Upload) (message : SendMediaByChunkRequest) :
    Except UploadFailure Upload :=
  match message.payload with
  | some (.metadata _) => .error ⟨.invalidArgument "metadata can only be sent once", upload⟩
  | some (.fileMetadata fileMetadata) =>
      upload.receiveFileMetadata io path expectedCount fileMetadata
  | some (.chunk chunk) => upload.receiveChunk io chunk
  | none => .error ⟨.invalidArgument "request payload is required", upload⟩

/-- The loop over the rest of the stream; a transport error ends it. -/
def Upload.receiveAll (upload : Upload) :
    List (Except Status SendMediaByChunkRequest) → Except UploadFailure Upload
  | [] =>
      if upload.current.isSome then
        .error ⟨.invalidArgument "the final media file is incomplete", upload⟩
      else if upload.stored.length ≠ expectedCount then
        .error ⟨.invalidArgument "file count does not match metadata", upload⟩
      else
        .ok upload
  | .error status :: _ => .error ⟨status, upload⟩
  | .ok message :: rest =>
      match upload.receive io path expectedCount message with
      | .error failure => .error failure
      | .ok next => next.receiveAll rest

end Receive

def storeChunksInner (io : Io) (path : String) (directory : Directory)
    (stream : List (Except Status SendMediaByChunkRequest)) :
    Except UploadFailure (StoredMedia × Directory) :=
  let upload : Upload := ⟨directory, [], none⟩
  match stream with
  | [] => .error ⟨.invalidArgument "metadata is required", upload⟩
  | .error status :: _ => .error ⟨status, upload⟩
  | .ok first :: rest =>
      match first.payload with
      | some (.metadata metadata) =>
          if metadata.fileCount = 0 then
            .error ⟨.invalidArgument "at least one media file is required", upload⟩
          else
            match MediaMode.tryFrom metadata.mode with
            | none => .error ⟨.invalidArgument "invalid media mode", upload⟩
            | some mode =>
                match upload.receiveAll io path metadata.fileCount.toNat rest with
                | .error failure => .error failure
                | .ok final =>
                    .ok (⟨metadata.channelId, final.stored, decide (mode = .multiple)⟩,
                      final.directory)
      | _ => .error ⟨.invalidArgument "the first message must be metadata", upload⟩

def removeStored (files : List MediaFile) (directory : Directory) : Directory :=
  files.foldl (fun directory file => Function.update directory file.path none) directory

/-- `store_chunks`: the result and the directory it leaves. -/
def storeChunks (io : Io) (path : String) (directory : Directory)
    (stream : List (Except Status SendMediaByChunkRequest)) :
    Except Status StoredMedia × Directory :=
  match storeChunksInner io path directory stream with
  | .ok (media, final) => (.ok media, final)
  | .error failure =>
      (.error failure.status, removeStored failure.upload.stored failure.upload.directory)

end Arisa.Media
