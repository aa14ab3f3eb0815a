import Arisa.Std.BigEndian
import Arisa.Std.Growing
import Mathlib.Logic.Function.Basic

/-!
# Files of an upload

`tokio::fs::File` as documented: `write_all` returns once the bytes are handed
to a background operation, a later write of the same handle waits for that
operation and reports its failure, and dropping the handle does neither. The
file system's answers are an `Io`; nothing here knows what is uploaded.
-/

namespace Arisa.Media

open Arisa.Std

/-- File contents by path. -/
abbrev Directory := String → Option Bytes

structure IoError where
  message : String
deriving DecidableEq

/-- How a background write ends. `landed` is how many of its bytes are in the
file as long as no later operation waited for it. -/
inductive WriteOutcome where
  | completed
  | failed (error : IoError) (landed : Nat)
  /-- Still running when nobody waits for it; `later` is how it ends for one who does. -/
  | pending (later : Option IoError) (landed : Nat)
deriving DecidableEq

/-- The failure reported to an operation that waits for the write. -/
def WriteOutcome.observed : WriteOutcome → Option IoError
  | .completed => none
  | .failed error _ => some error
  | .pending later _ => later

/-- The bytes of a write that are in the file while nothing has waited for it. -/
def WriteOutcome.landed (bytes : Bytes) : WriteOutcome → Bytes
  | .completed => bytes
  | .failed _ count => bytes.take count
  | .pending _ count => bytes.take count

/-- What the system answers during one call: names from `Uuid::new_v4`, the
outcome of each `File::create`, and of each write by file and position. -/
structure Io where
  uuid : Nat → String
  uuid_injective : Function.Injective uuid
  create : Nat → Option IoError
  /-- A failure of `write_all` itself, as of the earlier parts of a long buffer. -/
  accept : Nat → Nat → Option IoError
  /-- How the part of a write that runs in the background ends. -/
  write : Nat → Nat → WriteOutcome

/-- A system on which no call fails and every write takes effect. -/
def Io.healthy (uuid : Nat → String) (distinct : Function.Injective uuid) : Io where
  uuid
  uuid_injective := distinct
  create _ := none
  accept _ _ := none
  write _ _ := .completed

/-- A write handed to the background and not yet waited for. -/
structure PendingWrite where
  index : Nat
  bytes : Bytes

structure File where
  path : String
  /-- Which file of the call this is. -/
  number : Nat
  /-- How many times `write_all` was called. -/
  writes : Nat
  /-- The bytes of the writes that were waited for. -/
  settled : Bytes
  inFlight : Option PendingWrite

namespace File

variable (io : Io)

def create (path : String) (number : Nat) : File :=
  ⟨path, number, 0, [], none⟩

/-- The bytes found under the file's path. -/
def contents (file : File) : Bytes :=
  match file.inFlight with
  | none => file.settled
  | some write => file.settled ++ (io.write file.number write.index).landed write.bytes

/-- Waiting for the write in flight, as the next write does first. -/
def awaitInFlight (file : File) : Except IoError File :=
  match file.inFlight with
  | none => .ok file
  | some write =>
      match (io.write file.number write.index).observed with
      | some error => .error error
      | none => .ok { file with settled := file.settled ++ write.bytes, inFlight := none }

/-- `file.write_all(&bytes)`: an empty buffer starts no operation. -/
def writeAll (file : File) (bytes : Bytes) : Except IoError File :=
  if bytes.isEmpty then
    .ok { file with writes := file.writes + 1 }
  else do
    let ready ← file.awaitInFlight io
    match io.accept file.number file.writes with
    | some error => .error error
    | none =>
        return { ready with writes := file.writes + 1, inFlight := some ⟨file.writes, bytes⟩ }

/-- The next non-empty write returns: the one in flight does not fail, and the
new one is taken. -/
structure Ready (file : File) : Prop where
  settles : ∀ write, file.inFlight = some write →
    (io.write file.number write.index).observed = none
  accepts : io.accept file.number file.writes = none

/-- A handle after `write_all` of `chunks`: which bytes are settled and which
write is in flight. Every write but the one in flight was waited for. -/
structure Holds (file : File) (chunks : List Bytes) : Prop where
  writes_eq : file.writes = chunks.length
  bytes_eq : file.settled ++ ((file.inFlight.map PendingWrite.bytes).getD []) = chunks.flatten
  inFlight : ∀ write, file.inFlight = some write →
    write.bytes ≠ [] ∧ chunks[write.index]? = some write.bytes
  observed : ∀ index chunk, chunks[index]? = some chunk → chunk ≠ [] →
    (∀ write, file.inFlight = some write → write.index ≠ index) →
    (io.write file.number index).observed = none
  accepted : ∀ index chunk, chunks[index]? = some chunk → chunk ≠ [] →
    io.accept file.number index = none

/-- A new file holds nothing. -/
theorem create_holds (path : String) (number : Nat) : (create path number).Holds io [] where
  writes_eq := rfl
  bytes_eq := rfl
  inFlight := by simp [create]
  observed := by simp
  accepted := by simp

/-- The handle after `write_all` returned: an empty buffer only counts. -/
def wrote (file : File) (chunks : List Bytes) (bytes : Bytes) : File :=
  if bytes = [] then
    { file with writes := file.writes + 1 }
  else
    { file with
      writes := file.writes + 1
      settled := chunks.flatten
      inFlight := some ⟨file.writes, bytes⟩ }

/-- A write does not change the path of the file. -/
@[simp] theorem wrote_path (file : File) (chunks : List Bytes) (bytes : Bytes) :
    (file.wrote chunks bytes).path = file.path := by
  unfold wrote
  split <;> rfl

/-- A write does not change the number of the file. -/
@[simp] theorem wrote_number (file : File) (chunks : List Bytes) (bytes : Bytes) :
    (file.wrote chunks bytes).number = file.number := by
  unfold wrote
  split <;> rfl

variable {io}

/-- Waiting succeeds exactly when the write in flight did not fail, and settles it. -/
theorem awaitInFlight_ok_iff {file next : File} {chunks : List Bytes}
    (holds : file.Holds io chunks) :
    file.awaitInFlight io = .ok next ↔
      (∀ write, file.inFlight = some write →
        (io.write file.number write.index).observed = none) ∧
      next = { file with settled := chunks.flatten, inFlight := none } := by
  have settled := holds.bytes_eq
  obtain ⟨path, number, writes, before, inFlight⟩ := file
  cases inFlight with
  | none =>
      have all : before = chunks.flatten := by simpa using settled
      simp [awaitInFlight, all, eq_comm]
  | some write =>
      have all : before ++ write.bytes = chunks.flatten := by simpa using settled
      cases outcome : (io.write number write.index).observed with
      | none => simp [awaitInFlight, all, outcome, eq_comm]
      | some error => simp [awaitInFlight, outcome]

/-- A write succeeds exactly when it is empty or the handle is ready. -/
theorem writeAll_ok_iff {file next : File} {chunks : List Bytes} {bytes : Bytes}
    (holds : file.Holds io chunks) :
    file.writeAll io bytes = .ok next ↔
      (bytes ≠ [] → file.Ready io) ∧ next = file.wrote chunks bytes := by
  by_cases empty : bytes = []
  · subst empty
    rw [show file.writeAll io [] = .ok (file.wrote chunks []) by simp [writeAll, wrote]]
    simp [eq_comm]
  · have notEmpty : bytes.isEmpty = false := by simpa using empty
    constructor
    · intro written
      cases waited : file.awaitInFlight io with
      | error error => simp [writeAll, notEmpty, waited, bind, Except.bind] at written
      | ok ready =>
          obtain ⟨settles, rfl⟩ := (awaitInFlight_ok_iff holds).mp waited
          cases accepts : io.accept file.number file.writes with
          | some error =>
              simp [writeAll, notEmpty, waited, accepts, bind, Except.bind] at written
          | none =>
              refine ⟨fun _ => ⟨settles, accepts⟩, ?_⟩
              simpa [writeAll, notEmpty, waited, accepts, wrote, empty, bind, Except.bind, pure,
                Except.pure, eq_comm] using written
    · rintro ⟨ready, rfl⟩
      have waited := (awaitInFlight_ok_iff holds).mpr ⟨(ready empty).settles, rfl⟩
      simp [writeAll, notEmpty, waited, (ready empty).accepts, wrote, empty, bind, Except.bind,
        pure, Except.pure]

/-- A chunk that is not the last one is an earlier one. -/
theorem getElem?_of_concat {chunks : List Bytes} {bytes chunk : Bytes} {index : Nat}
    (notLast : index ≠ chunks.length) (found : (chunks ++ [bytes])[index]? = some chunk) :
    chunks[index]? = some chunk :=
  (getElem?_concat_eq_some.mp found).resolve_right fun last => notLast last.1

/-- A write that is accepted is so like those before it. -/
theorem Holds.accepted_concat {file : File} {chunks : List Bytes} {bytes : Bytes}
    (holds : file.Holds io chunks) (ready : bytes ≠ [] → file.Ready io) :
    ∀ index chunk, (chunks ++ [bytes])[index]? = some chunk → chunk ≠ [] →
      io.accept file.number index = none := by
  intro index chunk found nonempty
  rcases getElem?_concat_eq_some.mp found with earlier | ⟨rfl, rfl⟩
  · exact holds.accepted index chunk earlier nonempty
  · rw [← holds.writes_eq]
    exact (ready nonempty).accepts

/-- A write of nothing changes nothing. -/
theorem wrote_nil_holds {file : File} {chunks : List Bytes} (holds : file.Holds io chunks) :
    (file.wrote chunks []).Holds io (chunks ++ [[]]) := by
  have accepted := @holds.accepted_concat io file chunks [] fun nonempty => absurd rfl nonempty
  refine ⟨?_, ?_, ?_, ?_, by simpa using accepted⟩
  · simp [wrote, holds.writes_eq]
  · simpa [wrote] using holds.bytes_eq
  · intro write inFlight
    obtain ⟨nonempty, found⟩ := holds.inFlight write (by simpa [wrote] using inFlight)
    have bound := (List.getElem?_eq_some_iff.mp found).1
    exact ⟨nonempty, by rw [List.getElem?_append_left bound, found]⟩
  · intro index chunk found nonempty other
    have notLast : index ≠ chunks.length := by
      rintro rfl
      rw [List.getElem?_concat_length] at found
      cases found
      exact nonempty rfl
    simpa using holds.observed index chunk (getElem?_of_concat notLast found) nonempty
      (by simpa [wrote] using other)

/-- After a write that succeeded, everything before it was waited for. -/
theorem wrote_holds {file : File} {chunks : List Bytes} {bytes : Bytes}
    (holds : file.Holds io chunks) (ready : bytes ≠ [] → file.Ready io) :
    (file.wrote chunks bytes).Holds io (chunks ++ [bytes]) := by
  by_cases empty : bytes = []
  · subst empty
    exact wrote_nil_holds holds
  · refine ⟨?_, ?_, ?_, ?_, by simpa using holds.accepted_concat ready⟩
    · simp [wrote, empty, holds.writes_eq]
    · simp [wrote, empty]
    · intro write inFlight
      have same : write = ⟨file.writes, bytes⟩ := by simpa [wrote, empty, eq_comm] using inFlight
      subst same
      exact ⟨empty, by simp [holds.writes_eq]⟩
    · intro index chunk found nonempty other
      have notLast : index ≠ chunks.length := by
        have different := other ⟨file.writes, bytes⟩ (by simp [wrote, empty])
        rw [← holds.writes_eq]
        exact different.symm
      rw [wrote_number]
      by_cases waited : ∃ write, file.inFlight = some write ∧ write.index = index
      · obtain ⟨write, inFlight, rfl⟩ := waited
        exact (ready empty).settles write inFlight
      · apply holds.observed index chunk (getElem?_of_concat notLast found) nonempty
        intro write inFlight same
        exact waited ⟨write, inFlight, same⟩

/-- Until it is waited for, a write has landed as far as it has. -/
theorem wrote_contents {file : File} {chunks : List Bytes} {bytes : Bytes}
    (holds : file.Holds io chunks) (nonempty : bytes ≠ []) :
    (file.wrote chunks bytes).contents io =
      chunks.flatten ++ (io.write file.number chunks.length).landed bytes := by
  simp [wrote, nonempty, contents, holds.writes_eq]

end File
end Arisa.Media
