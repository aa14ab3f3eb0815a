import Arisa.Proto
import Arisa.Std.BigEndian
import Arisa.Std.Slices

/-!
# Media of the Python client

`media.py` and the request generator of `BotClient.reply_media`. What
`mimetypes` and `betterproto2` contribute is a parameter, as is what each read
of a path or a stream returns.
-/

namespace Arisa.Client

open Arisa.Proto Arisa.Std

inductive PyException where
  | valueError (message : String)
  | typeError (message : String)
  | osError (message : String)
  | overflowError (message : String)
deriving DecidableEq

/-- `MediaInput`; a path or a stream is read when its turn comes. -/
inductive MediaInput where
  | bytes (data : Bytes)
  | bytearray (data : Bytes)
  | memoryview (data : Bytes)
  | path (path : String)
  | stream
deriving DecidableEq

structure MediaFile where
  file : MediaInput
  name : Option String
  mime : Option String
deriving DecidableEq

/-- `MediaInput | MediaFile`. -/
inductive MediaItem where
  | input (input : MediaInput)
  | file (file : MediaFile)
deriving DecidableEq

/-- `MediaFilesInput`: one item, or a list or tuple of them. -/
inductive MediaFilesInput where
  | one (item : MediaItem)
  | many (items : List MediaItem)
deriving DecidableEq

/-- What a read of the outside world returned. -/
inductive ReadResult where
  | bytes (data : Bytes)
  /-- A stream opened in text mode returns a `str`. -/
  | text (text : String)
  | error (error : PyException)
deriving DecidableEq

/-- The parts of the client that are not in the repository: `guess_type(name)[0]`,
and the conversion of an integer to a `uint32` or `uint64` field. -/
structure Libraries where
  guessType : String → Option String
  uint32 : Nat → Except PyException UInt32
  uint64 : Nat → Except PyException UInt64
  uint32_ok : ∀ value, value < 2 ^ 32 → uint32 value = .ok (UInt32.ofNat value)
  uint64_ok : ∀ value, value < 2 ^ 64 → uint64 value = .ok (UInt64.ofNat value)

/-- `Path(value).name`: the last component, where `.` and empty ones do not count. -/
def pathName (path : String) : String :=
  ((path.splitOn "/").filter fun component => component ≠ "" ∧ component ≠ ".").getLast?.getD ""

/-- `left or right` for optional strings. -/
def orElse (left right : Option String) : Option String :=
  match left with
  | some "" => right
  | some text => some text
  | none => right

def normalizeOne (libraries : Libraries) (value : MediaItem) (name mime : Option String) :
    Except PyException MediaFile :=
  match value with
  | .file file =>
      if name.isSome ∨ mime.isSome then
        .error (.valueError "name and mime cannot be combined with MediaFile")
      else
        .ok file
  | .input input =>
      let inferredName : Option String :=
        match input with
        | .path path => some (pathName path)
        | _ => none
      let finalName := orElse name inferredName
      .ok ⟨input, finalName, orElse mime (finalName.bind libraries.guessType)⟩

def normalize (libraries : Libraries) (value : MediaFilesInput) (name mime : Option String) :
    Except PyException (List MediaFile) :=
  let values :=
    match value with
    | .one item => [item]
    | .many items => items
  if values.length > 1 ∧ name.isSome then
    .error (.valueError "name cannot be used with multiple files")
  else
    values.mapM fun item => normalizeOne libraries item name mime

/-- `media.read`, given what the outside world returns to it. -/
def read (result : ReadResult) (file : MediaFile) : Except PyException Bytes :=
  match file.file with
  | .bytes data => .ok data
  | .bytearray data => .ok data
  | .memoryview data => .ok data
  | .path _ =>
      match result with
      | .bytes data => .ok data
      | .text _ => .error (.typeError "a bytes-like object is required")
      | .error error => .error error
  | .stream =>
      match result with
      | .bytes data => .ok data
      | .text _ => .error (.typeError "media streams must return bytes")
      | .error error => .error error

/-- `MEDIA_CHUNK_SIZE`. -/
def mediaChunkSize : Nat := 1024 * 1024

/-- The requests of one item. -/
def itemRequests (libraries : Libraries) (result : ReadResult) (item : MediaFile) :
    Except PyException (List SendMediaByChunkRequest) := do
  let data ← read result item
  let fileSize ← libraries.uint64 data.length
  return ⟨some (.fileMetadata ⟨item.name.getD "", fileSize, item.mime.getD ""⟩)⟩ ::
    (slices mediaChunkSize data).map fun chunk => ⟨some (.chunk chunk)⟩

/-- The loop of `requests()` over the items from number `index` on: what was
yielded, then the exception that ended it, if any. -/
def itemsRequests (libraries : Libraries) (reads : Nat → ReadResult) (index : Nat) :
    List MediaFile → List (Except PyException SendMediaByChunkRequest)
  | [] => []
  | item :: rest =>
      match itemRequests libraries (reads index) item with
      | .error error => [.error error]
      | .ok messages => messages.map .ok ++ itemsRequests libraries reads (index + 1) rest

def requests (libraries : Libraries) (reads : Nat → ReadResult) (channelId : Int64)
    (mediaMode : MediaMode) (items : List MediaFile) :
    List (Except PyException SendMediaByChunkRequest) :=
  match libraries.uint32 items.length with
  | .error error => [.error error]
  | .ok fileCount =>
      .ok ⟨some (.metadata ⟨channelId, fileCount, mediaMode.number⟩)⟩ ::
        itemsRequests libraries reads 0 items

/-- `selected_mode`, as the enumeration. -/
def mediaModeOf (mode : Option String) (count : Nat) : MediaMode :=
  let selectedMode := (orElse mode (some (if count > 1 then "multiple" else "single")))
  if selectedMode = some "multiple" then .multiple else .single

/-- `BotClient.reply_media` up to the call: the request stream it passes on. -/
def replyMedia (libraries : Libraries) (reads : Nat → ReadResult) (channelId : Int64)
    (file : MediaFilesInput) (name mode mime : Option String) :
    Except PyException (List (Except PyException SendMediaByChunkRequest)) :=
  if mode ≠ none ∧ mode ≠ some "single" ∧ mode ≠ some "multiple" then
    .error (.valueError "mode must be 'single' or 'multiple'")
  else do
    let items ← normalize libraries file name mime
    return requests libraries reads channelId (mediaModeOf mode items.length) items

end Arisa.Client
