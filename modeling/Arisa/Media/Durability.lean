import Arisa.Media.Acceptance

/-!
# What an accepted upload left on disk

The handle of a file is dropped right after its last chunk, without a flush, so
the last write is the one operation nothing waits for. An `Ok` therefore says
that the file is complete exactly when that write completed by itself.
-/

namespace Arisa.Media

open Arisa.Proto Arisa.Std

namespace Group

variable (group : Group) (io : Io) (number : Nat)

/-- The write of a chunk took effect. A write still running is waited for by the
next chunk that is not empty, if there is one. -/
def WriteCompleted (index : Nat) : Prop :=
  io.write number index = .completed ∨
    ((io.write number index).observed = none ∧ index + 1 < group.chunks.length)

/-- The file `stored` has all its writes completed and all its bytes. -/
structure Durable (stored : Option Bytes) : Prop where
  completed : ∀ index chunk, group.chunks[index]? = some chunk → chunk ≠ [] →
    group.WriteCompleted io number index
  holds : stored = some group.bytes
  size : group.bytes.length = group.metadata.fileSize.toNat

/-- With no failure reported, only the last write decides. -/
theorem durable_iff (complete : group.Complete) (observed : group.Observed io number) :
    group.Durable io number (some (group.contents io number)) ↔
      io.write number (group.chunks.length - 1) = .completed := by
  obtain ⟨first, last, split, nonempty, -⟩ := complete.chunks_eq
  have final : group.chunks.length - 1 = first.length := by
    rw [split, List.length_append, List.length_singleton]
    omega
  constructor
  · intro durable
    have found : group.chunks[first.length]? = some last := by
      rw [split, List.getElem?_concat_length]
    rcases durable.completed first.length last found nonempty with completed | ⟨-, before⟩
    · rw [final, completed]
    · omega
  · intro completed
    refine ⟨?_, ?_, complete.total⟩
    · intro index chunk found chunkNonempty
      have bound := (List.getElem?_eq_some_iff.mp found).1
      by_cases before : index + 1 < group.chunks.length
      · exact .inr ⟨observed.written index chunk before found chunkNonempty, before⟩
      · have last : index = group.chunks.length - 1 := by omega
        exact .inl (last ▸ completed)
    · rw [contents, completed]
      simp [bytes, split, WriteOutcome.landed]

end Group

section Durability

variable (io : Io) (path : String) (directory : Directory)
  (stream : List (Except Status SendMediaByChunkRequest))

/-- An `Ok` result leaves every file durable. -/
def StoresDurably : Prop :=
  ∀ media after, storeChunks io path directory stream = (.ok media, after) →
    ∀ messages metadata mode groups, stream = messages.map .ok →
      WellFormed messages metadata mode groups →
      ∀ (number : Nat) (file : MediaFile) (group : Group), media.files[number]? = some file →
        groups[number]? = some group → group.Durable io number (after file.path)

/-- Where a well-formed upload meets no reported failure, the last write of each
file completes without being waited for. -/
def LastWritesComplete : Prop :=
  ∀ messages metadata mode groups, stream = messages.map .ok →
    WellFormed messages metadata mode groups →
    (∀ number (group : Group), groups[number]? = some group → group.Observed io number) →
    ∀ number (group : Group), groups[number]? = some group →
      io.write number (group.chunks.length - 1) = .completed

/-- What an accepted upload left is durable exactly when its last writes complete. -/
theorem storesDurably_iff :
    StoresDurably io path directory stream ↔ LastWritesComplete io stream := by
  constructor
  · rintro durably messages metadata mode groups rfl wellFormed observed number group found
    have accepted := storeChunks_of_wellFormed path directory wellFormed observed
    have file : (storedFiles io path groups)[number]? =
        some (mediaFile io path number group.metadata) := by
      simp [storedFiles, found]
    have durable := durably _ _ accepted messages metadata mode groups rfl wellFormed number _
      group file found
    rw [mediaFile, written_of_getElem? io path groups directory found] at durable
    exact (group.durable_iff io number
      (wellFormed.complete group (List.mem_of_getElem? found)) (observed number group found)).mp
      durable
  · rintro complete media after accepted messages metadata mode groups rfl wellFormed number
      file group foundFile foundGroup
    obtain ⟨sent, sentMetadata, sentMode, sentGroups, same, sentFormed, observed, rfl, rfl⟩ :=
      storeChunks_ok_iff.mp accepted
    have unchanged : messages = sent :=
      List.map_injective_iff.mpr (fun _ _ => Except.ok.inj) same
    subst unchanged
    obtain rfl := wellFormed.unique sentFormed
    simp only [storedFiles, List.getElem?_mapIdx, foundGroup, Option.map_some,
      Option.some.injEq] at foundFile
    subst foundFile
    rw [mediaFile, written_of_getElem? io path groups directory foundGroup]
    exact (group.durable_iff io number
      (wellFormed.complete group (List.mem_of_getElem? foundGroup))
      (observed number group foundGroup)).mpr
      (complete messages metadata mode groups rfl wellFormed observed number group foundGroup)

end Durability

/-- A disk that takes the file but no byte of it. -/
def fullDisk : Io where
  uuid := tallyName
  uuid_injective := tallyName_injective
  create _ := none
  accept _ _ := none
  write _ _ := .failed ⟨"No space left on device"⟩ 0

/-- One file sent in one chunk: its only write fails, and nothing reports it. -/
theorem fullDisk_notDurable :
    ¬ StoresDurably fullDisk "/media" (fun _ => none)
      ([⟨some (.metadata ⟨7, 1, 0⟩)⟩, ⟨some (.fileMetadata ⟨"a.bin", 3, ""⟩)⟩,
        ⟨some (.chunk [1, 2, 3])⟩].map .ok) := by
  intro durably
  let group : Group := ⟨⟨"a.bin", 3, ""⟩, [[1, 2, 3]]⟩
  have wellFormed : WellFormed [⟨some (.metadata ⟨7, 1, 0⟩)⟩,
      ⟨some (.fileMetadata ⟨"a.bin", 3, ""⟩)⟩, ⟨some (.chunk [1, 2, 3])⟩]
      ⟨7, 1, 0⟩ .single [group] := by
    refine ⟨rfl, rfl, by decide, rfl, ?_⟩
    intro member found
    rw [List.mem_singleton] at found
    exact found ▸ ⟨by decide, rfl, by decide⟩
  have observed : ∀ number (member : Group), [group][number]? = some member →
      member.Observed fullDisk number := by
    intro number member found
    obtain rfl : member = group := List.mem_singleton.mp (List.mem_of_getElem? found)
    exact ⟨rfl, fun index chunk before _ _ => absurd before (by simp [group]), fun _ _ _ _ => rfl⟩
  have accepted := storeChunks_of_wellFormed "/media" (fun _ => none) wellFormed observed
  have durable := durably _ _ accepted _ _ _ _ rfl wellFormed 0 _ group rfl rfl
  rcases durable.completed 0 [1, 2, 3] rfl (by decide) with completed | ⟨-, before⟩
  · cases completed
  · exact absurd before (by decide)

end Arisa.Media
