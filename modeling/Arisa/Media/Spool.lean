import Arisa.Android.Action
import Arisa.Media.Store
import Arisa.Semantics.Tasks

/-!
# The temporary directory of a running server

Uploads, the retention cleanup and the Android thread share one directory and
one queue. A chunked upload goes through the functions of `Media.Upload`; the
rest of this module is `store` write by write, `cleanup`, `remove_stored`, the two
requests that enqueue a `SendMedia`, and the receiving end of the queue. The clock is
arbitrary, and a file's modification time is the time of its last write. Only
whether a file exists and how old it is matters here: what is written to it is the
subject of `Media.Upload` and `Media.Durability`.
-/

namespace Arisa.Media

open Arisa.Android Arisa.Proto Arisa.Semantics Arisa.Std

/-- `SystemTime`, in nanoseconds since the epoch. -/
abbrev SystemTime := Int

/-- `RETENTION`, `Duration::from_secs(600)`. -/
def retention : Int := 600 * 1000000000

/-- The smallest time that can be represented: `i64` seconds. -/
def earliest : SystemTime := -9223372036854775808 * 1000000000

/-- `now.checked_sub(RETENTION).unwrap_or(UNIX_EPOCH)`. -/
def cutoffAt (now : SystemTime) : SystemTime :=
  if earliest ≤ now - retention then now - retention else 0

structure Spool where
  now : SystemTime
  /-- When each file in the directory was last written. -/
  modified : String → Option SystemTime
  /-- The names used so far. -/
  issued : List String
  queue : List Action

namespace Spool

def create (spool : Spool) (name : String) : Spool :=
  { spool with
    modified := Function.update spool.modified name (some spool.now)
    issued := name :: spool.issued }

/-- A write through an open handle; a file that was removed does not come back. -/
def write (spool : Spool) (name : String) : Spool :=
  if (spool.modified name).isSome then
    { spool with modified := Function.update spool.modified name (some spool.now) }
  else spool

def remove (spool : Spool) (name : String) : Spool :=
  { spool with modified := Function.update spool.modified name none }

/-- What a message of a chunked upload that was taken does to the directory. -/
def take (spool : Spool) (path : String) (io : Io) (upload : Upload)
    (message : SendMediaByChunkRequest) : Spool :=
  match message.payload, upload.current with
  | some (.fileMetadata _), _ => spool.create (joinPath path (io.uuid upload.stored.length))
  | some (.chunk chunk), some current =>
      if chunk.isEmpty then spool else spool.write current.file.path
  | _, _ => spool

end Spool

inductive Activity where
  | idle
  /-- `store_chunks_inner` between two messages. The files are in the spool, not in
  the directory of `upload`. -/
  | uploading (io : Io) (metadata : SendMediaByChunkMetadata) (mode : MediaMode) (upload : Upload)
  /-- `store` between two files. -/
  | storing (io : Io) (channelId : Int64) (mode : MediaMode) (stored : List MediaFile)
      (rest : List Proto.MediaFile)
  /-- `remove_stored` between two files. -/
  | removing (files : List MediaFile)
  /-- A request that has stored its files and is about to enqueue its action. -/
  | accepted (action : Action)
  /-- `cleanup` between two entries. -/
  | sweeping (cutoff : SystemTime)
  /-- `cleanup` after it has read the time of an entry. -/
  | expiring (cutoff : SystemTime) (path : String)

inductive SpoolLabel where
  /-- The Android thread starts to process an action. -/
  | processing (action : Action)
  /-- A cleanup finds that a file was last written before its cutoff. -/
  | expired (path : String) (written cutoff : SystemTime)
  | moved
deriving DecidableEq

/-- `upload` before its first file. -/
def Upload.initial : Upload := ⟨fun _ => none, [], none⟩

/-- `SendMedia` of a chunked upload that has ended well. -/
def mediaAction (metadata : SendMediaByChunkMetadata) (mode : MediaMode)
    (stored : List MediaFile) : Action :=
  .sendMedia metadata.channelId stored (decide (mode = .multiple))

/-- The name a taken message creates, if any, was never used. -/
def FreshFor (path : String) (spool : Spool) (io : Io) (upload : Upload)
    (message : SendMediaByChunkRequest) : Prop :=
  ∀ metadata, message.payload = some (.fileMetadata metadata) →
    joinPath path (io.uuid upload.stored.length) ∉ spool.issued

inductive SpoolTurn (path : String) :
    Spool → Activity → SpoolLabel → Spool → Activity → Prop where
  | clock (spool : Spool) (now : SystemTime) :
      SpoolTurn path spool .idle .moved { spool with now } .idle
  /-- `send_media_by_chunk` with a valid first message. -/
  | uploadBegins (spool : Spool) (io : Io) (metadata : SendMediaByChunkMetadata)
      (mode : MediaMode) (counted : metadata.fileCount ≠ 0)
      (valid : MediaMode.tryFrom metadata.mode = some mode) :
      SpoolTurn path spool .idle .moved spool (.uploading io metadata mode .initial)
  | received (spool : Spool) (io : Io) (metadata : SendMediaByChunkMetadata) (mode : MediaMode)
      (upload next : Upload) (message : SendMediaByChunkRequest)
      (taken : upload.receive io path metadata.fileCount.toNat message = .ok next)
      (fresh : FreshFor path spool io upload message) :
      SpoolTurn path spool (.uploading io metadata mode upload) .moved
        (spool.take path io upload message) (.uploading io metadata mode next)
  /-- A message is refused, or its creation or write fails. -/
  | uploadFails (spool : Spool) (io : Io) (metadata : SendMediaByChunkMetadata) (mode : MediaMode)
      (upload : Upload) (message : SendMediaByChunkRequest) (failure : UploadFailure)
      (failed : upload.receive io path metadata.fileCount.toNat message = .error failure) :
      SpoolTurn path spool (.uploading io metadata mode upload) .moved spool
        (.removing failure.upload.stored)
  /-- A transport error. -/
  | uploadBreaks (spool : Spool) (io : Io) (metadata : SendMediaByChunkMetadata) (mode : MediaMode)
      (upload : Upload) :
      SpoolTurn path spool (.uploading io metadata mode upload) .moved spool
        (.removing upload.stored)
  | uploadEndsEarly (spool : Spool) (io : Io) (metadata : SendMediaByChunkMetadata)
      (mode : MediaMode) (upload : Upload) (failure : UploadFailure)
      (failed : upload.receiveAll io path metadata.fileCount.toNat [] = .error failure) :
      SpoolTurn path spool (.uploading io metadata mode upload) .moved spool
        (.removing failure.upload.stored)
  | uploadEnds (spool : Spool) (io : Io) (metadata : SendMediaByChunkMetadata) (mode : MediaMode)
      (upload final : Upload)
      (ended : upload.receiveAll io path metadata.fileCount.toNat [] = .ok final) :
      SpoolTurn path spool (.uploading io metadata mode upload) .moved spool
        (.accepted (mediaAction metadata mode final.stored))
  /-- `send_media` with a valid mode and at least one file. -/
  | storeBegins (spool : Spool) (io : Io) (request : SendMediaRequest) (mode : MediaMode)
      (valid : MediaMode.tryFrom request.mode = some mode) (given : request.files ≠ []) :
      SpoolTurn path spool .idle .moved spool (.storing io request.channelId mode [] request.files)
  | stores (spool : Spool) (io : Io) (channelId : Int64) (mode : MediaMode)
      (stored : List MediaFile) (file : Proto.MediaFile) (rest : List Proto.MediaFile)
      (filled : file.data ≠ []) (fresh : joinPath path (io.uuid stored.length) ∉ spool.issued) :
      SpoolTurn path spool (.storing io channelId mode stored (file :: rest)) .moved
        (spool.create (joinPath path (io.uuid stored.length)))
        (.storing io channelId mode
          (stored ++ [storedFile (joinPath path (io.uuid stored.length)) file]) rest)
  /-- An empty file, or a failed write, which may leave a part of its file behind. -/
  | storeFails (spool : Spool) (io : Io) (channelId : Int64) (mode : MediaMode)
      (stored : List MediaFile) (file : Proto.MediaFile) (rest : List Proto.MediaFile)
      (left : Bool)
      (fresh : joinPath path (io.uuid stored.length) ∉ spool.issued) :
      SpoolTurn path spool (.storing io channelId mode stored (file :: rest)) .moved
        (if left then spool.create (joinPath path (io.uuid stored.length)) else spool)
        (.removing stored)
  | storeEnds (spool : Spool) (io : Io) (channelId : Int64) (mode : MediaMode)
      (stored : List MediaFile) :
      SpoolTurn path spool (.storing io channelId mode stored []) .moved spool
        (.accepted (.sendMedia channelId stored (decide (mode = .multiple))))
  | removes (spool : Spool) (file : MediaFile) (rest : List MediaFile) :
      SpoolTurn path spool (.removing (file :: rest)) .moved (spool.remove file.path)
        (.removing rest)
  | enqueues (spool : Spool) (action : Action) :
      SpoolTurn path spool (.accepted action) .moved
        { spool with queue := spool.queue ++ [action] } .idle
  /-- Another request enqueues an action without files. -/
  | requests (spool : Spool) (action : Action) (fileless : action.files = []) :
      SpoolTurn path spool .idle .moved { spool with queue := spool.queue ++ [action] } .idle
  | processes (spool : Spool) (action : Action) (rest : List Action)
      (next : spool.queue = action :: rest) :
      SpoolTurn path spool .idle (.processing action) { spool with queue := rest } .idle
  | sweepBegins (spool : Spool) :
      SpoolTurn path spool .idle .moved spool (.sweeping (cutoffAt spool.now))
  | expires (spool : Spool) (cutoff : SystemTime) (name : String) (written : SystemTime)
      (found : spool.modified name = some written) (old : written < cutoff) :
      SpoolTurn path spool (.sweeping cutoff) (.expired name written cutoff) spool
        (.expiring cutoff name)
  | deletes (spool : Spool) (cutoff : SystemTime) (name : String) :
      SpoolTurn path spool (.expiring cutoff name) .moved (spool.remove name) (.sweeping cutoff)
  /-- A cleanup or a removal is done, a request is dropped, or the queue is closed. -/
  | leaves (spool : Spool) (activity : Activity) :
      SpoolTurn path spool activity .moved spool .idle

/-- The server from its start, with whatever an earlier one has left in the directory. -/
def spoolSystem (path : String) : System (Tasks Spool Activity) (Nat × SpoolLabel) :=
  Tasks.system (fun spool => spool.queue = []) .idle (SpoolTurn path)

end Arisa.Media
