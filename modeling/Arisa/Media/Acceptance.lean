import Arisa.Media.Upload
import Mathlib.Data.List.Basic

/-!
# Which uploads are accepted

A well-formed upload is metadata followed by groups, one file each, whose chunks
reach the declared size exactly at the last one. `storeChunks_ok_iff` shows that
these uploads are the accepted ones, for every behaviour of the file system, and
gives the result and the directory in closed form.
-/

namespace Arisa.Media

open Arisa.Proto Arisa.Std

def fileMetadataMessage (metadata : MediaFileMetadata) : SendMediaByChunkRequest :=
  ⟨some (.fileMetadata metadata)⟩

def chunkMessage (chunk : Bytes) : SendMediaByChunkRequest :=
  ⟨some (.chunk chunk)⟩

/-- One file of an upload: its metadata and the chunks after it. -/
structure Group where
  metadata : MediaFileMetadata
  chunks : List Bytes

namespace Group

def bytes (group : Group) : Bytes := group.chunks.flatten

def messages (group : Group) : List SendMediaByChunkRequest :=
  fileMetadataMessage group.metadata :: group.chunks.map chunkMessage

def push (group : Group) (chunk : Bytes) : Group :=
  { group with chunks := group.chunks ++ [chunk] }

/-- The declared size is positive, and the chunks reach it at the last one only. -/
structure Complete (group : Group) : Prop where
  positive : 1 ≤ group.metadata.fileSize.toNat
  total : group.bytes.length = group.metadata.fileSize.toNat
  before : group.chunks.dropLast.flatten.length < group.metadata.fileSize.toNat

/-- The bytes under the file's path once its handle is dropped: the last write
is the one nothing waits for. -/
def contents (group : Group) (io : Io) (number : Nat) : Bytes :=
  group.chunks.dropLast.flatten ++
    (io.write number (group.chunks.length - 1)).landed (group.chunks.getLast?.getD [])

/-- No failure is reported while the file is created and written. -/
structure Observed (group : Group) (io : Io) (number : Nat) : Prop where
  created : io.create number = none
  written : ∀ index chunk, index + 1 < group.chunks.length → group.chunks[index]? = some chunk →
    chunk ≠ [] → (io.write number index).observed = none
  accepted : ∀ index chunk, group.chunks[index]? = some chunk → chunk ≠ [] →
    io.accept number index = none

/-- One more chunk adds its bytes at the end. -/
theorem bytes_push (group : Group) (chunk : Bytes) :
    (group.push chunk).bytes = group.bytes ++ chunk := by
  simp [bytes, push]

/-- One more chunk is sent in one more message. -/
theorem messages_push (group : Group) (chunk : Bytes) :
    (group.push chunk).messages = group.messages ++ [chunkMessage chunk] := by
  simp [messages, push]

/-- A complete group ends in a chunk that is not empty. -/
theorem Complete.chunks_eq {group : Group} (complete : group.Complete) :
    ∃ first last, group.chunks = first ++ [last] ∧ last ≠ [] ∧
      first.flatten.length < group.metadata.fileSize.toNat ∧
      first.flatten.length + last.length = group.metadata.fileSize.toNat := by
  have total := complete.total
  have before := complete.before
  rcases List.eq_nil_or_concat group.chunks with none | ⟨first, last, split⟩
  · rw [bytes, none, List.flatten_nil, List.length_nil] at total
    have positive := complete.positive
    omega
  · rw [List.concat_eq_append] at split
    rw [split, List.dropLast_concat] at before
    rw [bytes, split, List.flatten_append, List.flatten_singleton, List.length_append] at total
    refine ⟨first, last, split, ?_, before, total⟩
    rintro rfl
    rw [List.length_nil] at total
    omega

/-- A group for `data` whose chunks reach its end at the last one only. -/
theorem complete_iff_ne_nil {group : Group} {data : Bytes}
    (size : group.metadata.fileSize.toNat = data.length) (all : group.bytes = data)
    (before : data ≠ [] → group.chunks.dropLast.flatten.length < data.length) :
    group.Complete ↔ data ≠ [] := by
  constructor
  · rintro complete rfl
    have positive := complete.positive
    rw [size] at positive
    exact absurd positive (by decide)
  · intro nonempty
    have filled : 0 < data.length := List.length_pos_iff.mpr nonempty
    refine ⟨by rw [size]; exact filled, by rw [all, size], ?_⟩
    rw [size]
    exact before nonempty

end Group

/-- The chunks after a `FileMetadata` end where the next group begins. -/
theorem chunks_unique {groups others : List Group} {chunks rest : List Bytes}
    (tails : ∀ others, groups.flatMap Group.messages = others.flatMap Group.messages →
      groups = others)
    (same : chunks.map chunkMessage ++ groups.flatMap Group.messages =
      rest.map chunkMessage ++ others.flatMap Group.messages) :
    chunks = rest ∧ groups = others := by
  induction chunks generalizing rest with
  | nil =>
      cases rest with
      | nil => exact ⟨rfl, tails others same⟩
      | cons chunk rest =>
          cases groups with
          | nil => simp at same
          | cons group groups =>
              simp [Group.messages, chunkMessage, fileMetadataMessage] at same
  | cons chunk chunks ih =>
      cases rest with
      | nil =>
          cases others with
          | nil => simp at same
          | cons other others =>
              simp [Group.messages, chunkMessage, fileMetadataMessage] at same
      | cons first rest =>
          simp only [List.map_cons, List.cons_append, List.cons.injEq] at same
          obtain ⟨headSame, tailSame⟩ := same
          obtain ⟨rfl, rfl⟩ := ih tailSame
          simp only [chunkMessage, SendMediaByChunkRequest.mk.injEq, Option.some.injEq,
            Payload.chunk.injEq] at headSame
          exact ⟨by rw [headSame], rfl⟩

/-- A message sequence splits into groups in one way. -/
theorem groups_unique {groups others : List Group}
    (same : groups.flatMap Group.messages = others.flatMap Group.messages) :
    groups = others := by
  induction groups generalizing others with
  | nil =>
      cases others with
      | nil => rfl
      | cons other others => simp [Group.messages] at same
  | cons group groups ih =>
      cases others with
      | nil => simp [Group.messages] at same
      | cons other others =>
          simp only [List.flatMap_cons, Group.messages, List.cons_append, List.cons.injEq]
            at same
          obtain ⟨headSame, tailSame⟩ := same
          obtain ⟨chunksSame, rfl⟩ := chunks_unique (fun _ => ih) tailSame
          simp only [fileMetadataMessage, SendMediaByChunkRequest.mk.injEq, Option.some.injEq,
            Payload.fileMetadata.injEq] at headSame
          obtain ⟨metadata, chunks⟩ := group
          obtain ⟨otherMetadata, otherChunks⟩ := other
          cases headSame
          cases chunksSame
          rfl

section Layout

variable (io : Io) (path : String)

/-- The path of the file with a given number. -/
def filePath (number : Nat) : String :=
  joinPath path (io.uuid number)

def mediaFile (number : Nat) (metadata : MediaFileMetadata) : MediaFile :=
  ⟨filePath io path number, storeMime metadata.contentType, storeName metadata.fileName⟩

/-- The list `stored` after the given groups. -/
def storedFiles (groups : List Group) : List MediaFile :=
  groups.mapIdx fun number group => mediaFile io path number group.metadata

/-- The directory after the groups from number `first` on were stored. -/
def writtenFrom : Nat → List Group → Directory → Directory
  | _, [], directory => directory
  | first, group :: rest, directory =>
      writtenFrom (first + 1) rest
        (Function.update directory (filePath io path first) (some (group.contents io first)))

def written (groups : List Group) (directory : Directory) : Directory :=
  writtenFrom io path 0 groups directory

/-- One more file is one more update of the directory, under its own number. -/
theorem writtenFrom_concat (first : Nat) (groups : List Group) (group : Group)
    (directory : Directory) :
    writtenFrom io path first (groups ++ [group]) directory =
      Function.update (writtenFrom io path first groups directory)
        (filePath io path (first + groups.length))
        (some (group.contents io (first + groups.length))) := by
  induction groups generalizing first directory with
  | nil => rfl
  | cons head rest ih =>
      simp only [List.cons_append, writtenFrom, ih, List.length_cons]
      rw [show first + 1 + rest.length = first + (rest.length + 1) by omega]

/-- The same, counted from the first file. -/
theorem written_concat (groups : List Group) (group : Group) (directory : Directory) :
    written io path (groups ++ [group]) directory =
      Function.update (written io path groups directory) (filePath io path groups.length)
        (some (group.contents io groups.length)) := by
  simp [written, writtenFrom_concat]

/-- The answer names one more file at the end. -/
theorem storedFiles_concat (groups : List Group) (group : Group) :
    storedFiles io path (groups ++ [group]) =
      storedFiles io path groups ++ [mediaFile io path groups.length group.metadata] := by
  simp [storedFiles, List.mapIdx_append]

/-- There is one stored file for each group. -/
@[simp] theorem length_storedFiles (groups : List Group) :
    (storedFiles io path groups).length = groups.length := by
  simp [storedFiles]

/-- Distinct names are distinct paths in the media directory. -/
theorem joinPath_injective : Function.Injective (joinPath path) := by
  intro left right same
  unfold joinPath at same
  split at same
  · exact String.append_right_inj _ |>.mp same
  · exact String.append_right_inj _ |>.mp same

/-- So the files of one request, which have distinct names, never share a path. -/
theorem filePath_injective : Function.Injective (filePath io path) :=
  (joinPath_injective path).comp io.uuid_injective

/-- Later files do not touch what an earlier one holds. -/
theorem written_of_getElem? (groups : List Group) (directory : Directory) {number : Nat}
    {group : Group} (found : groups[number]? = some group) :
    written io path groups directory (filePath io path number) =
      some (group.contents io number) := by
  induction groups using List.reverseRecOn with
  | nil => simp at found
  | append_singleton groups last ih =>
      rw [written_concat]
      rcases getElem?_concat_eq_some.mp found with earlier | ⟨rfl, rfl⟩
      · have old := (List.getElem?_eq_some_iff.mp earlier).1
        have different : filePath io path number ≠ filePath io path groups.length :=
          fun same => Nat.ne_of_lt old (filePath_injective io path same)
        rw [Function.update_of_ne different]
        exact ih earlier
      · rw [Function.update_self]

end Layout

section Steps

variable {io : Io} {path : String} {expectedCount : Nat}

/-- The only way through the `FileMetadata` arm. -/
theorem receiveFileMetadata_ok_iff {upload next : Upload} {metadata : MediaFileMetadata} :
    upload.receiveFileMetadata io path expectedCount metadata = .ok next ↔
      upload.current = none ∧ upload.stored.length < expectedCount ∧
      1 ≤ metadata.fileSize.toNat ∧ io.create upload.stored.length = none ∧
      next = {
        directory := Function.update upload.directory
          (filePath io path upload.stored.length) (some [])
        stored := upload.stored ++ [mediaFile io path upload.stored.length metadata]
        current := some ⟨File.create (filePath io path upload.stored.length)
          upload.stored.length, metadata.fileSize, 0⟩ } := by
  have sizeZero : metadata.fileSize = 0 ↔ ¬ 1 ≤ metadata.fileSize.toNat := by
    rw [← UInt64.toNat_inj, UInt64.toNat_zero]
    omega
  unfold Upload.receiveFileMetadata
  cases current : upload.current with
  | some file => simp
  | none =>
      by_cases full : upload.stored.length ≥ expectedCount
      · have notLess : ¬ upload.stored.length < expectedCount := by omega
        simp [full, notLess]
      · have less : upload.stored.length < expectedCount := by omega
        by_cases empty : metadata.fileSize = 0
        · simp [full, empty]
        · have positive : 1 ≤ metadata.fileSize.toNat := by
            by_contra small
            exact empty (sizeZero.mpr small)
          cases created : io.create upload.stored.length with
          | some error => simp [full, empty, created]
          | none =>
              simp [full, empty, less, positive, created, filePath, mediaFile, eq_comm]

/-- The state after a chunk whose write returned `file`. -/
def Upload.afterChunk (io : Io) (upload : Upload) (current : CurrentFile) (file : File)
    (chunk : Bytes) : Upload :=
  { upload with
    directory := Function.update upload.directory file.path (some (file.contents io))
    current :=
      if current.receivedSize.toNat + chunk.length = current.expectedSize.toNat then none
      else some ⟨file, current.expectedSize,
        current.receivedSize + UInt64.ofNat chunk.length⟩ }

/-- The only way through the `Chunk` arm: the size fits, and the write returns. -/
theorem receiveChunk_ok_iff {upload next : Upload} {current : CurrentFile} {chunk : Bytes}
    (underway : upload.current = some current) :
    upload.receiveChunk io chunk = .ok next ↔
      current.receivedSize.toNat + chunk.length ≤ current.expectedSize.toNat ∧
      ∃ file, current.file.writeAll io chunk = .ok file ∧
        next = upload.afterChunk io current file chunk := by
  have expectedBound := current.expectedSize.toNat_lt
  have receivedBound := current.receivedSize.toNat_lt
  simp only [Upload.receiveChunk, underway, tryFromLength]
  by_cases long : chunk.length < 2 ^ 64
  · have size : (UInt64.ofNat chunk.length).toNat = chunk.length :=
      UInt64.toNat_ofNat_of_lt long
    simp only [long, if_true, checkedAdd, size]
    by_cases overflow : current.receivedSize.toNat + chunk.length < 2 ^ 64
    · have sum : (current.receivedSize + UInt64.ofNat chunk.length).toNat =
          current.receivedSize.toNat + chunk.length := by
        rw [UInt64.toNat_add, size, Nat.mod_eq_of_lt overflow]
      simp only [overflow, if_true, gt_iff_lt, UInt64.lt_iff_toNat_lt, sum]
      by_cases exceeds : current.expectedSize.toNat <
          current.receivedSize.toNat + chunk.length
      · have notFits : ¬ current.receivedSize.toNat + chunk.length ≤
            current.expectedSize.toNat := by omega
        simp [exceeds, notFits]
      · have fits : current.receivedSize.toNat + chunk.length ≤
            current.expectedSize.toNat := by omega
        have reached : current.receivedSize + UInt64.ofNat chunk.length =
            current.expectedSize ↔
            current.receivedSize.toNat + chunk.length = current.expectedSize.toNat := by
          rw [← UInt64.toNat_inj, sum]
        cases current.file.writeAll io chunk with
        | error error => simp [exceeds]
        | ok file => simp [exceeds, fits, reached, Upload.afterChunk, eq_comm]
    · have notFits : ¬ current.receivedSize.toNat + chunk.length ≤
          current.expectedSize.toNat := by omega
      simp only [overflow, if_false, notFits, false_and]
      exact ⟨fun same => by simp at same, False.elim⟩
  · have notFits : ¬ current.receivedSize.toNat + chunk.length ≤
        current.expectedSize.toNat := by omega
    simp only [long, if_false, notFits, false_and]
    exact ⟨fun same => by simp at same, False.elim⟩

/-- A group whose chunks so far stay below the declared size, and the handle
its bytes go to. -/
structure Underway (io : Io) (path : String) (number : Nat) (group : Group) (file : File)
    (received : UInt64) : Prop where
  created : io.create number = none
  path_eq : file.path = filePath io path number
  number_eq : file.number = number
  holds : file.Holds io group.chunks
  received_eq : received.toNat = group.bytes.length
  short : group.bytes.length < group.metadata.fileSize.toNat

namespace Underway

variable {number : Nat} {group : Group} {file : File} {received : UInt64} {chunk : Bytes}

/-- The `Chunk` arm with a file underway. -/
theorem receiveChunk_ok_iff (underway : Underway io path number group file received)
    {upload next : Upload}
    (current : upload.current = some ⟨file, group.metadata.fileSize, received⟩) :
    upload.receiveChunk io chunk = .ok next ↔
      (group.push chunk).bytes.length ≤ group.metadata.fileSize.toNat ∧
      (chunk ≠ [] → file.Ready io) ∧
      next = upload.afterChunk io ⟨file, group.metadata.fileSize, received⟩
        (file.wrote group.chunks chunk) chunk := by
  rw [Media.receiveChunk_ok_iff current, Group.bytes_push, List.length_append,
    underway.received_eq]
  simp only [File.writeAll_ok_iff underway.holds]
  constructor
  · rintro ⟨fits, _, ⟨ready, rfl⟩, same⟩
    exact ⟨fits, ready, same⟩
  · rintro ⟨fits, ready, same⟩
    exact ⟨fits, _, ⟨ready, rfl⟩, same⟩

/-- A chunk that leaves the file short. -/
theorem push (underway : Underway io path number group file received)
    (ready : chunk ≠ [] → file.Ready io)
    (short : (group.push chunk).bytes.length < group.metadata.fileSize.toNat) :
    Underway io path number (group.push chunk) (file.wrote group.chunks chunk)
      (received + UInt64.ofNat chunk.length) where
  created := underway.created
  path_eq := by rw [File.wrote_path, underway.path_eq]
  number_eq := by rw [File.wrote_number, underway.number_eq]
  holds := File.wrote_holds underway.holds ready
  received_eq := by
    have bound := group.metadata.fileSize.toNat_lt
    rw [Group.bytes_push, List.length_append] at short ⊢
    have small : chunk.length < 2 ^ 64 := by omega
    have size : (UInt64.ofNat chunk.length).toNat = chunk.length :=
      UInt64.toNat_ofNat_of_lt small
    have received := underway.received_eq
    rw [UInt64.toNat_add, size, Nat.mod_eq_of_lt (by omega), received]
  short := short

/-- The chunk that completes the file. It is not empty, so its write is the one
still in flight. -/
theorem finish (underway : Underway io path number group file received)
    (ready : chunk ≠ [] → file.Ready io)
    (total : (group.push chunk).bytes.length = group.metadata.fileSize.toNat) :
    (group.push chunk).Complete ∧ (group.push chunk).Observed io number ∧
      (file.wrote group.chunks chunk).contents io = (group.push chunk).contents io number := by
  have short := underway.short
  have nonempty : chunk ≠ [] := by
    rintro rfl
    rw [Group.bytes_push, List.append_nil] at total
    omega
  have holds := File.wrote_holds underway.holds ready
  refine ⟨⟨?_, total, ?_⟩, ⟨underway.created, ?_, ?_⟩, ?_⟩
  · change 1 ≤ group.metadata.fileSize.toNat
    omega
  · simpa [Group.push, Group.bytes] using short
  · intro index old before found nonempty
    rw [← underway.number_eq]
    rw [← File.wrote_number file group.chunks chunk]
    apply holds.observed index old found nonempty
    intro write inFlight same
    have last : write.index = group.chunks.length := by
      rw [File.wrote, if_neg ‹chunk ≠ []›] at inFlight
      cases inFlight
      exact underway.holds.writes_eq
    rw [Group.push, List.length_append, List.length_singleton] at before
    omega
  · rw [← underway.number_eq, ← File.wrote_number file group.chunks chunk]
    exact holds.accepted
  · rw [File.wrote_contents underway.holds nonempty, underway.number_eq]
    simp [Group.contents, Group.push]

end Underway

/-- The groups stored so far, each whole and none of its failures reported. -/
structure Stored (io : Io) (expectedCount : Nat) (groups : List Group) : Prop where
  complete : ∀ group ∈ groups, group.Complete
  observed : ∀ number (group : Group), groups[number]? = some group → group.Observed io number
  count : groups.length ≤ expectedCount

/-- A complete and observed file joins those that are stored. -/
theorem Stored.concat {groups : List Group} {group : Group}
    (stored : Stored io expectedCount groups) (complete : group.Complete)
    (observed : group.Observed io groups.length) (count : groups.length < expectedCount) :
    Stored io expectedCount (groups ++ [group]) where
  complete := by
    intro member found
    rcases List.mem_append.mp found with old | new
    · exact stored.complete member old
    · rw [List.mem_singleton] at new
      exact new ▸ complete
  observed := forall_getElem?_concat stored.observed observed
  count := by
    rw [List.length_append, List.length_singleton]
    omega

/-- The state between two groups. -/
def Upload.between (io : Io) (path : String) (directory : Directory) (groups : List Group) :
    Upload :=
  ⟨written io path groups directory, storedFiles io path groups, none⟩

/-- The state inside a group. -/
def Upload.within (io : Io) (path : String) (directory : Directory) (groups : List Group)
    (group : Group) (file : File) (received : UInt64) : Upload where
  directory := Function.update (written io path groups directory)
    (filePath io path groups.length) (some (file.contents io))
  stored := storedFiles io path (groups ++ [group])
  current := some ⟨file, group.metadata.fileSize, received⟩

/-- Where the loop stands once it has taken the messages `seen`. -/
inductive Progress (io : Io) (path : String) (directory : Directory) (expectedCount : Nat) :
    List SendMediaByChunkRequest → Upload → Prop
  | between {groups : List Group} (stored : Stored io expectedCount groups) :
      Progress io path directory expectedCount (groups.flatMap Group.messages)
        (.between io path directory groups)
  | within {groups : List Group} {group : Group} {file : File} {received : UInt64}
      (stored : Stored io expectedCount groups) (count : groups.length < expectedCount)
      (underway : Underway io path groups.length group file received) :
      Progress io path directory expectedCount
        (groups.flatMap Group.messages ++ group.messages)
        (.within io path directory groups group file received)

variable {directory : Directory}

/-- A group begins at a `FileMetadata` message. -/
theorem between_receiveFileMetadata_ok_iff {groups : List Group} {next : Upload}
    {metadata : MediaFileMetadata} :
    (Upload.between io path directory groups).receiveFileMetadata io path expectedCount
        metadata = .ok next ↔
      groups.length < expectedCount ∧ 1 ≤ metadata.fileSize.toNat ∧
      io.create groups.length = none ∧
      next = .within io path directory groups ⟨metadata, []⟩
        (File.create (filePath io path groups.length) groups.length) 0 := by
  rw [receiveFileMetadata_ok_iff]
  simp [Upload.between, Upload.within, storedFiles_concat, File.contents, File.create]

/-- A file that could be created begins with its metadata and without bytes. -/
theorem underway_create {number : Nat} {metadata : MediaFileMetadata}
    (positive : 1 ≤ metadata.fileSize.toNat) (created : io.create number = none) :
    Underway io path number ⟨metadata, []⟩ (File.create (filePath io path number) number) 0 where
  created := created
  path_eq := rfl
  number_eq := rfl
  holds := File.create_holds io _ _
  received_eq := by simp [Group.bytes]
  short := by simp only [Group.bytes, List.flatten_nil, List.length_nil]; omega

/-- What a chunk inside a group leaves: the group is longer, or it is complete. -/
theorem within_afterChunk {groups : List Group} {group : Group} {file : File}
    {received : UInt64} {chunk : Bytes}
    (underway : Underway io path groups.length group file received)
    (ready : chunk ≠ [] → file.Ready io) :
    (Upload.within io path directory groups group file received).afterChunk io
        ⟨file, group.metadata.fileSize, received⟩ (file.wrote group.chunks chunk) chunk =
      if (group.push chunk).bytes.length = group.metadata.fileSize.toNat then
        .between io path directory (groups ++ [group.push chunk])
      else
        .within io path directory groups (group.push chunk) (file.wrote group.chunks chunk)
          (received + UInt64.ofNat chunk.length) := by
  have sum : received.toNat + chunk.length = (group.push chunk).bytes.length := by
    rw [underway.received_eq, Group.bytes_push, List.length_append]
  have sameFiles : storedFiles io path (groups ++ [group.push chunk]) =
      storedFiles io path (groups ++ [group]) := by
    rw [storedFiles_concat, storedFiles_concat]
    rfl
  split
  · rename_i total
    have contents := (underway.finish ready total).2.2
    simp [Upload.afterChunk, Upload.within, Upload.between, sum, total, sameFiles,
      written_concat, contents, underway.path_eq]
  · rename_i incomplete
    simp only [Upload.afterChunk, Upload.within, sum, incomplete, if_false, sameFiles,
      File.wrote_path, underway.path_eq, Function.update_idem]
    rfl

/-- One message that is accepted moves the loop to its next place. -/
theorem Progress.step {seen : List SendMediaByChunkRequest} {upload next : Upload}
    {message : SendMediaByChunkRequest}
    (progress : Progress io path directory expectedCount seen upload)
    (accepted : upload.receive io path expectedCount message = .ok next) :
    Progress io path directory expectedCount (seen ++ [message]) next := by
  obtain ⟨payload⟩ := message
  cases payload with
  | none => simp [Upload.receive] at accepted
  | some payload =>
      cases payload with
      | metadata metadata => simp [Upload.receive] at accepted
      | fileMetadata metadata =>
          simp only [Upload.receive] at accepted
          cases progress with
          | between stored =>
              obtain ⟨count, positive, created, rfl⟩ :=
                between_receiveFileMetadata_ok_iff.mp accepted
              exact .within stored count (underway_create positive created)
          | within stored count underway =>
              have idle := (receiveFileMetadata_ok_iff.mp accepted).1
              simp [Upload.within] at idle
      | chunk chunk =>
          simp only [Upload.receive] at accepted
          cases progress with
          | between stored => simp [Upload.receiveChunk, Upload.between] at accepted
          | @within groups group file received stored count underway =>
              obtain ⟨fits, ready, rfl⟩ := (underway.receiveChunk_ok_iff rfl).mp accepted
              rw [within_afterChunk underway ready]
              have longer : groups.flatMap Group.messages ++ group.messages ++
                  [chunkMessage chunk] =
                  groups.flatMap Group.messages ++ (group.push chunk).messages := by
                rw [Group.messages_push, List.append_assoc]
              change Progress io path directory expectedCount
                (groups.flatMap Group.messages ++ group.messages ++ [chunkMessage chunk]) _
              rw [longer]
              split
              · rename_i total
                obtain ⟨complete, observed, -⟩ := underway.finish ready total
                have whole : Progress io path directory expectedCount
                    ((groups ++ [group.push chunk]).flatMap Group.messages)
                    (.between io path directory (groups ++ [group.push chunk])) :=
                  .between (stored.concat complete observed count)
                simpa using whole
              · rename_i incomplete
                exact .within stored count
                  (underway.push ready (Nat.lt_of_le_of_ne fits incomplete))

/-- What the loop took when it ends without an error. -/
theorem Progress.receiveAll {seen : List SendMediaByChunkRequest} {upload final : Upload}
    {stream : List (Except Status SendMediaByChunkRequest)}
    (progress : Progress io path directory expectedCount seen upload)
    (accepted : upload.receiveAll io path expectedCount stream = .ok final) :
    ∃ messages groups, stream = messages.map .ok ∧
      seen ++ messages = groups.flatMap Group.messages ∧ groups.length = expectedCount ∧
      Stored io expectedCount groups ∧ final = .between io path directory groups := by
  induction stream generalizing seen upload with
  | nil =>
      cases progress with
      | @between groups stored =>
          have counts : groups.length = expectedCount := by
            by_contra different
            simp [Upload.receiveAll, Upload.between, different] at accepted
          refine ⟨[], groups, rfl, List.append_nil _, counts, stored, ?_⟩
          simpa [Upload.receiveAll, Upload.between, counts, eq_comm] using accepted
      | within => simp [Upload.receiveAll, Upload.within] at accepted
  | cons message rest ih =>
      cases message with
      | error status => simp [Upload.receiveAll] at accepted
      | ok message =>
          rw [Upload.receiveAll] at accepted
          cases received : upload.receive io path expectedCount message with
          | error failure => simp [received] at accepted
          | ok next =>
              rw [received] at accepted
              obtain ⟨messages, groups, rfl, seen, rest⟩ := ih (progress.step received) accepted
              refine ⟨message :: messages, groups, rfl, ?_, rest⟩
              rw [← seen, List.append_assoc]
              rfl

/-- Where no failure is observed, the next chunk finds its handle ready. -/
theorem Underway.ready {number : Nat} {group : Group} {file : File} {received : UInt64}
    {chunk : Bytes} {pending : List Bytes}
    (underway : Underway io path number group file received)
    (observed : Group.Observed ⟨group.metadata, group.chunks ++ chunk :: pending⟩ io number)
    (chunkNonempty : chunk ≠ []) : file.Ready io := by
  refine ⟨?_, ?_⟩
  · intro write inFlight
    obtain ⟨nonempty, found⟩ := underway.holds.inFlight write inFlight
    have bound := (List.getElem?_eq_some_iff.mp found).1
    rw [underway.number_eq]
    refine observed.written write.index write.bytes ?_ ?_ nonempty
    · simp only [List.length_append, List.length_cons]
      omega
    · rw [List.getElem?_append_left bound, found]
  · rw [underway.number_eq, underway.holds.writes_eq]
    exact observed.accepted _ chunk (by simp) chunkNonempty

/-- The chunks of a group that the loop has not taken yet are all accepted. -/
theorem receiveAll_chunks {groups : List Group} {group : Group} {file : File}
    {received : UInt64} {pending : List Bytes} {whole : Group}
    {rest : List (Except Status SendMediaByChunkRequest)}
    (underway : Underway io path groups.length group file received)
    (remaining : whole = ⟨group.metadata, group.chunks ++ pending⟩)
    (complete : whole.Complete) (observed : whole.Observed io groups.length) :
    (Upload.within io path directory groups group file received).receiveAll io path
        expectedCount ((pending.map chunkMessage).map .ok ++ rest) =
      (Upload.between io path directory (groups ++ [whole])).receiveAll io path
        expectedCount rest := by
  subst remaining
  induction pending generalizing group file received with
  | nil =>
      have total := complete.total
      have short := underway.short
      simp only [List.append_nil] at total
      exact absurd total (Nat.ne_of_lt short)
  | cons chunk pending ih =>
      have same : (⟨group.metadata, group.chunks ++ chunk :: pending⟩ : Group) =
          ⟨(group.push chunk).metadata, (group.push chunk).chunks ++ pending⟩ := by
        simp [Group.push]
      have total := complete.total
      rw [same] at total
      simp only [Group.bytes, List.flatten_append, List.length_append] at total
      have fits : (group.push chunk).bytes.length ≤ group.metadata.fileSize.toNat := by
        change (group.push chunk).chunks.flatten.length ≤ (group.push chunk).metadata.fileSize.toNat
        omega
      have ready : chunk ≠ [] → file.Ready io := underway.ready observed
      have accepted : (Upload.within io path directory groups group file received).receiveChunk
          io chunk = .ok _ :=
        (underway.receiveChunk_ok_iff rfl).mpr ⟨fits, ready, rfl⟩
      simp only [List.map_cons, List.cons_append, Upload.receiveAll, chunkMessage, Upload.receive,
        accepted]
      rw [within_afterChunk underway ready]
      split
      · rename_i reached
        -- The declared size is reached before the last chunk only.
        cases pending with
        | nil => rfl
        | cons next pending =>
            have before := complete.before
            rw [same, List.dropLast_append_of_ne_nil (by simp), List.flatten_append,
              List.length_append] at before
            change _ < (group.push chunk).metadata.fileSize.toNat at before
            have total : (group.push chunk).chunks.flatten.length =
                (group.push chunk).metadata.fileSize.toNat := reached
            omega
      · rename_i incomplete
        rw [same] at complete observed ⊢
        exact ih (underway.push ready (Nat.lt_of_le_of_ne fits incomplete)) complete observed

/-- A whole group is accepted when a file is still expected. -/
theorem receiveAll_group {groups : List Group} {group : Group}
    {rest : List (Except Status SendMediaByChunkRequest)}
    (count : groups.length < expectedCount) (complete : group.Complete)
    (observed : group.Observed io groups.length) :
    (Upload.between io path directory groups).receiveAll io path expectedCount
        (group.messages.map .ok ++ rest) =
      (Upload.between io path directory (groups ++ [group])).receiveAll io path
        expectedCount rest := by
  have accepted : (Upload.between io path directory groups).receiveFileMetadata io path
      expectedCount group.metadata = .ok _ :=
    between_receiveFileMetadata_ok_iff.mpr ⟨count, complete.positive, observed.created, rfl⟩
  simp only [Group.messages, fileMetadataMessage, List.map_cons, List.cons_append,
    Upload.receiveAll, Upload.receive, accepted]
  exact receiveAll_chunks (underway_create complete.positive observed.created) rfl complete
    observed

/-- The loop accepts complete files one after the other, until the announced count is reached. -/
theorem receiveAll_groups {done groups : List Group}
    (stored : Stored io expectedCount (done ++ groups))
    (counts : (done ++ groups).length = expectedCount) :
    (Upload.between io path directory done).receiveAll io path expectedCount
        ((groups.flatMap Group.messages).map .ok) =
      .ok (.between io path directory (done ++ groups)) := by
  induction groups generalizing done with
  | nil =>
      rw [List.append_nil] at counts ⊢
      simp [Upload.receiveAll, Upload.between, counts]
  | cons group groups ih =>
      have again : done ++ group :: groups = done ++ [group] ++ groups := by simp
      have count : done.length < expectedCount := by
        rw [← counts, List.length_append, List.length_cons]
        omega
      have complete := stored.complete group (by simp)
      have observed := stored.observed done.length group (by simp)
      rw [List.flatMap_cons, List.map_append, receiveAll_group count complete observed, again]
      rw [again] at stored counts
      exact ih stored counts

end Steps

/-- The uploads `store_chunks` is for: metadata with a known mode, then one
complete group for each file it announces. -/
structure WellFormed (messages : List SendMediaByChunkRequest) (metadata : SendMediaByChunkMetadata)
    (mode : MediaMode) (groups : List Group) : Prop where
  messages_eq : messages = ⟨some (.metadata metadata)⟩ :: groups.flatMap Group.messages
  mode_eq : MediaMode.tryFrom metadata.mode = some mode
  positive : 1 ≤ metadata.fileCount.toNat
  count : groups.length = metadata.fileCount.toNat
  complete : ∀ group ∈ groups, group.Complete

/-- A stream can be read in one way only: sizes say where each file ends. -/
theorem WellFormed.unique {messages : List SendMediaByChunkRequest}
    {metadata other : SendMediaByChunkMetadata} {mode otherMode : MediaMode}
    {groups others : List Group} (left : WellFormed messages metadata mode groups)
    (right : WellFormed messages other otherMode others) :
    groups = others := by
  have same := left.messages_eq.symm.trans right.messages_eq
  exact groups_unique (List.cons.inj same).2

/-- Metadata that counts the groups after it has one reading. -/
theorem wellFormed_groups_iff {metadata other : SendMediaByChunkMetadata}
    {mode otherMode : MediaMode} {groups others : List Group}
    (valid : MediaMode.tryFrom metadata.mode = some mode)
    (count : metadata.fileCount.toNat = groups.length) :
    WellFormed (⟨some (.metadata metadata)⟩ :: groups.flatMap Group.messages) other otherMode
        others ↔
      other = metadata ∧ otherMode = mode ∧ others = groups ∧ groups ≠ [] ∧
        ∀ group ∈ groups, group.Complete := by
  constructor
  · intro wellFormed
    obtain ⟨sameMetadata, sameGroups⟩ := List.cons.inj wellFormed.messages_eq
    obtain rfl := groups_unique sameGroups
    obtain rfl : other = metadata := by simpa using sameMetadata.symm
    refine ⟨rfl, ?_, rfl, ?_, wellFormed.complete⟩
    · exact Option.some.inj (wellFormed.mode_eq.symm.trans valid)
    · rintro rfl
      have positive := wellFormed.positive
      rw [count, List.length_nil] at positive
      omega
  · rintro ⟨rfl, rfl, rfl, nonempty, complete⟩
    refine ⟨rfl, valid, ?_, count.symm, complete⟩
    rw [count]
    exact List.length_pos_iff.mpr nonempty

/-- The server keeps a name, unless it is empty. -/
theorem storeName_getD (name : Option String) :
    storeName (name.getD "") = if name = some "" then none else name := by
  rcases name with _ | name
  · simp [storeName]
  · by_cases empty : name = ""
    · simp [storeName, empty]
    · simp [storeName, empty]

/-- An upload that is accepted starts with its metadata, and its loop ends. -/
theorem storeChunksInner_eq_ok {io : Io} {path : String} {directory after : Directory}
    {stream : List (Except Status SendMediaByChunkRequest)} {media : StoredMedia}
    (accepted : storeChunksInner io path directory stream = .ok (media, after)) :
    ∃ metadata mode rest final, stream = .ok ⟨some (.metadata metadata)⟩ :: rest ∧
      metadata.fileCount ≠ 0 ∧ MediaMode.tryFrom metadata.mode = some mode ∧
      Upload.receiveAll io path metadata.fileCount.toNat ⟨directory, [], none⟩ rest =
        .ok final ∧
      media = ⟨metadata.channelId, final.stored, decide (mode = .multiple)⟩ ∧
      after = final.directory := by
  unfold storeChunksInner at accepted
  rcases stream with _ | ⟨first, rest⟩
  · simp at accepted
  rcases first with status | ⟨payload⟩
  · simp at accepted
  rcases payload with _ | (metadata | fileMetadata | chunk)
  · simp at accepted
  · simp only at accepted
    by_cases counted : metadata.fileCount = 0
    · simp [counted] at accepted
    cases found : MediaMode.tryFrom metadata.mode with
    | none => simp [counted, found] at accepted
    | some mode =>
        cases received : Upload.receiveAll io path metadata.fileCount.toNat
            ⟨directory, [], none⟩ rest with
        | error failure => simp [counted, found, received] at accepted
        | ok final =>
            simp only [counted, found, received, if_false, Except.ok.injEq,
              Prod.mk.injEq] at accepted
            obtain ⟨rfl, rfl⟩ := accepted
            exact ⟨metadata, mode, rest, final, rfl, counted, found, received, rfl, rfl⟩
  · simp at accepted
  · simp at accepted

/-- The accepted uploads, for every behaviour of the file system. -/
theorem storeChunksInner_ok_iff {io : Io} {path : String} {directory after : Directory}
    {stream : List (Except Status SendMediaByChunkRequest)} {media : StoredMedia} :
    storeChunksInner io path directory stream = .ok (media, after) ↔
      ∃ messages metadata mode groups, stream = messages.map .ok ∧
        WellFormed messages metadata mode groups ∧
        (∀ number (group : Group), groups[number]? = some group → group.Observed io number) ∧
        media = ⟨metadata.channelId, storedFiles io path groups, decide (mode = .multiple)⟩ ∧
        after = written io path groups directory := by
  constructor
  · intro accepted
    obtain ⟨metadata, mode, rest, final, rfl, counted, found, received, rfl, rfl⟩ :=
      storeChunksInner_eq_ok accepted
    have nothing : Stored io metadata.fileCount.toNat [] :=
      ⟨by simp, by simp, Nat.zero_le _⟩
    have start : Progress io path directory metadata.fileCount.toNat []
        ⟨directory, [], none⟩ :=
      .between nothing
    obtain ⟨messages, groups, rfl, taken, count, stored, rfl⟩ := start.receiveAll received
    have positive : 1 ≤ metadata.fileCount.toNat := by
      rw [ne_eq, ← UInt32.toNat_inj, UInt32.toNat_zero] at counted
      exact Nat.pos_of_ne_zero counted
    refine ⟨⟨some (.metadata metadata)⟩ :: messages, metadata, mode, groups, rfl,
      ⟨?_, found, positive, count, stored.complete⟩, stored.observed, rfl, rfl⟩
    rw [← taken, List.nil_append]
  · rintro ⟨messages, metadata, mode, groups, rfl, wellFormed, observed, rfl, rfl⟩
    have stored : Stored io metadata.fileCount.toNat ([] ++ groups) :=
      ⟨wellFormed.complete, observed, Nat.le_of_eq wellFormed.count⟩
    have all : (Upload.between io path directory []).receiveAll _ _ _ _ = .ok _ :=
      receiveAll_groups stored wellFormed.count
    have counted : metadata.fileCount ≠ 0 := by
      intro zero
      have positive := wellFormed.positive
      rw [zero] at positive
      exact absurd positive (by decide)
    rw [wellFormed.messages_eq]
    simp only [storeChunksInner, List.map_cons, counted, if_false, wellFormed.mode_eq]
    rw [show (⟨directory, [], none⟩ : Upload) = .between io path directory [] from rfl, all]
    rfl

/-- Acceptance on the level of groups: exactly the well formed streams whose writes were observed,
with the whole effect on the directory. -/
theorem storeChunks_ok_iff {io : Io} {path : String} {directory after : Directory}
    {stream : List (Except Status SendMediaByChunkRequest)} {media : StoredMedia} :
    storeChunks io path directory stream = (.ok media, after) ↔
      ∃ messages metadata mode groups, stream = messages.map .ok ∧
        WellFormed messages metadata mode groups ∧
        (∀ number (group : Group), groups[number]? = some group → group.Observed io number) ∧
        media = ⟨metadata.channelId, storedFiles io path groups, decide (mode = .multiple)⟩ ∧
        after = written io path groups directory := by
  rw [← storeChunksInner_ok_iff]
  unfold storeChunks
  cases storeChunksInner io path directory stream with
  | error failure => simp
  | ok result => simp [Prod.ext_iff]

/-- What such a stream is answered, and what it leaves in the directory. -/
theorem storeChunks_of_wellFormed {io : Io} (path : String) (directory : Directory)
    {messages : List SendMediaByChunkRequest} {metadata : SendMediaByChunkMetadata}
    {mode : MediaMode} {groups : List Group}
    (wellFormed : WellFormed messages metadata mode groups)
    (observed : ∀ number (group : Group), groups[number]? = some group →
      group.Observed io number) :
    storeChunks io path directory (messages.map .ok) =
      (.ok ⟨metadata.channelId, storedFiles io path groups, decide (mode = .multiple)⟩,
        written io path groups directory) :=
  storeChunks_ok_iff.mpr
    ⟨messages, metadata, mode, groups, rfl, wellFormed, observed, rfl, rfl⟩

section Healthy

variable (uuid : Nat → String) (distinct : Function.Injective uuid)

/-- On a healthy disk every write is observed as it is meant. -/
theorem healthy_observed (number : Nat) (group : Group) :
    group.Observed (.healthy uuid distinct) number :=
  ⟨rfl, fun _ _ _ _ _ => rfl, fun _ _ _ _ => rfl⟩

/-- There a file holds exactly the bytes that were sent for it. -/
theorem healthy_contents (number : Nat) {group : Group} (complete : group.Complete) :
    group.contents (.healthy uuid distinct) number = group.bytes := by
  obtain ⟨first, last, split, -⟩ := complete.chunks_eq
  simp [Group.contents, Group.bytes, split, Io.healthy, WriteOutcome.landed]

/-- The accepted uploads where nothing fails, and what they leave. -/
theorem healthy_ok_iff {path : String} {directory after : Directory}
    {messages : List SendMediaByChunkRequest} {media : StoredMedia} :
    storeChunks (.healthy uuid distinct) path directory (messages.map .ok) = (.ok media, after) ↔
      ∃ metadata mode groups, WellFormed messages metadata mode groups ∧
        media = ⟨metadata.channelId, storedFiles (.healthy uuid distinct) path groups,
          decide (mode = .multiple)⟩ ∧
        after = written (.healthy uuid distinct) path groups directory := by
  constructor
  · intro accepted
    obtain ⟨sent, metadata, mode, groups, same, wellFormed, -, rfl, rfl⟩ :=
      storeChunks_ok_iff.mp accepted
    have unchanged : messages = sent :=
      List.map_injective_iff.mpr (fun _ _ => Except.ok.inj) same
    exact ⟨metadata, mode, groups, unchanged ▸ wellFormed, rfl, rfl⟩
  · rintro ⟨metadata, mode, groups, wellFormed, rfl, rfl⟩
    exact storeChunks_of_wellFormed path directory wellFormed
      fun number group _ => healthy_observed uuid distinct number group

/-- Metadata that counts the groups after it is accepted exactly when there is a
group and all are complete. -/
theorem healthy_groups_iff {path : String} {directory after : Directory}
    {metadata : SendMediaByChunkMetadata} {mode : MediaMode} {groups : List Group}
    {media : StoredMedia} (valid : MediaMode.tryFrom metadata.mode = some mode)
    (count : metadata.fileCount.toNat = groups.length) :
    storeChunks (.healthy uuid distinct) path directory
        ((⟨some (.metadata metadata)⟩ :: groups.flatMap Group.messages).map .ok) =
          (.ok media, after) ↔
      (groups ≠ [] ∧ ∀ group ∈ groups, group.Complete) ∧
        media = ⟨metadata.channelId, storedFiles (.healthy uuid distinct) path groups,
          decide (mode = .multiple)⟩ ∧
        after = written (.healthy uuid distinct) path groups directory := by
  rw [healthy_ok_iff]
  constructor
  · rintro ⟨other, otherMode, others, wellFormed, mediaEq, afterEq⟩
    obtain ⟨rfl, rfl, rfl, sendable⟩ := (wellFormed_groups_iff valid count).mp wellFormed
    exact ⟨sendable, mediaEq, afterEq⟩
  · rintro ⟨sendable, mediaEq, afterEq⟩
    have wellFormed := (wellFormed_groups_iff valid count).mpr ⟨rfl, rfl, rfl, sendable⟩
    exact ⟨metadata, mode, groups, wellFormed, mediaEq, afterEq⟩

/-- What is read back for a stored file. -/
theorem healthy_written {path : String} {directory : Directory} {groups : List Group}
    {number : Nat} {group : Group} (found : groups[number]? = some group)
    (complete : group.Complete) :
    written (.healthy uuid distinct) path groups directory
      (filePath (.healthy uuid distinct) path number) = some group.bytes := by
  rw [written_of_getElem? _ _ _ _ found, healthy_contents uuid distinct number complete]

/-- Without a transport or file system failure, the uploads accepted are the
well-formed ones, and each file holds what was sent for it. -/
theorem storeChunks_accepts (path : String) (directory : Directory)
    (messages : List SendMediaByChunkRequest) :
    let result := storeChunks (.healthy uuid distinct) path directory (messages.map .ok)
    ((∃ media, result.1 = .ok media) ↔
      ∃ metadata mode groups, WellFormed messages metadata mode groups) ∧
    ∀ metadata mode groups, WellFormed messages metadata mode groups →
      ∃ media, result.1 = .ok media ∧
        media.channelId = metadata.channelId ∧
        media.multiple = decide (mode = .multiple) ∧
        media.files.length = groups.length ∧
        ∀ (number : Nat) (file : MediaFile) (group : Group),
          media.files[number]? = some file → groups[number]? = some group →
          result.2 file.path = some group.bytes ∧
          file.mime = (if isBlank group.metadata.contentType then "application/octet-stream"
            else group.metadata.contentType) ∧
          file.name = (if group.metadata.fileName = "" then none
            else some group.metadata.fileName) := by
  intro result
  refine ⟨⟨?_, ?_⟩, ?_⟩
  · rintro ⟨media, accepted⟩
    obtain ⟨metadata, mode, groups, wellFormed, -⟩ :=
      (healthy_ok_iff uuid distinct).mp (Prod.ext accepted rfl : result = (.ok media, result.2))
    exact ⟨metadata, mode, groups, wellFormed⟩
  · rintro ⟨metadata, mode, groups, wellFormed⟩
    have stored : result = _ :=
      (healthy_ok_iff uuid distinct).mpr ⟨metadata, mode, groups, wellFormed, rfl, rfl⟩
    exact ⟨_, by rw [stored]⟩
  · intro metadata mode groups wellFormed
    have stored : result = _ :=
      (healthy_ok_iff uuid distinct).mpr ⟨metadata, mode, groups, wellFormed, rfl, rfl⟩
    rw [stored]
    refine ⟨_, rfl, rfl, rfl, length_storedFiles _ _ _, ?_⟩
    intro number file group foundFile foundGroup
    simp only [storedFiles, List.getElem?_mapIdx, foundGroup, Option.map_some,
      Option.some.injEq] at foundFile
    subst foundFile
    refine ⟨healthy_written uuid distinct foundGroup ?_, rfl, ?_⟩
    · exact wellFormed.complete group (List.mem_of_getElem? foundGroup)
    · simp [mediaFile, storeName]

end Healthy

/-- Names of different lengths, for concrete runs. -/
def tallyName (number : Nat) : String :=
  String.ofList (List.replicate number 'f')

/-- Names of different lengths differ. -/
theorem tallyName_injective : Function.Injective tallyName := by
  intro left right same
  have lengths := congrArg String.length same
  simpa [tallyName] using lengths

/-- Two files, the first in three chunks of which one is empty. -/
def twoFileGroups : List Group :=
  [⟨⟨"a.bin", 3, " "⟩, [[1, 2], [], [3]]⟩, ⟨⟨"", 1, "image/png"⟩, [[9]]⟩]

/-- Both files of the example are complete. -/
theorem twoFileGroups_complete : ∀ group ∈ twoFileGroups, group.Complete := by
  intro group found
  simp only [twoFileGroups, List.mem_cons, List.not_mem_nil, or_false] at found
  rcases found with rfl | rfl
  · exact ⟨by decide, rfl, by decide⟩
  · exact ⟨by decide, rfl, by decide⟩

/-- A request with two files, the first of them sent in several chunks. -/
theorem storeChunks_accepts_twoFiles :
    ∃ media,
      (storeChunks (.healthy tallyName tallyName_injective) "/media" (fun _ => none)
        ((⟨some (.metadata ⟨7, 2, 1⟩)⟩ :: twoFileGroups.flatMap Group.messages).map .ok)).1 =
          .ok media ∧
      media.channelId = 7 ∧ media.multiple = true ∧ media.files.length = 2 :=
  let ⟨media, accepted, channel, multiple, count, _⟩ :=
    (storeChunks_accepts tallyName tallyName_injective "/media" (fun _ => none) _).2
      ⟨7, 2, 1⟩ .multiple twoFileGroups ⟨rfl, rfl, by decide, rfl, twoFileGroups_complete⟩
  ⟨media, accepted, channel, multiple, count⟩

end Arisa.Media
