import Arisa.Media.Rollback

/-!
# The unary upload of `media.rs`

`store` writes whole files. `tokio::fs::write` creates a file and writes to it,
so it can fail before there is a file and after; only the paths of writes that
succeeded are in the list that `remove_stored` is called with.
-/

namespace Arisa.Media

open Arisa.Proto Arisa.Std

/-- How `tokio::fs::write` ends. -/
inductive WriteResult where
  | written
  /-- The file could not be created. -/
  | notCreated (error : IoError)
  /-- The file was created, and `landed` of its bytes are in it. -/
  | broken (error : IoError) (landed : Nat)
deriving DecidableEq

/-- What the system answers during one call of `store`, by the number of the file. -/
structure StoreIo where
  uuid : Nat → String
  uuid_injective : Function.Injective uuid
  write : Nat → WriteResult

/-- The file that `store` records after a write. -/
def storedFile (path : String) (file : Proto.MediaFile) : MediaFile :=
  ⟨path, storeMime file.mime, file.name⟩

/-- `format!("failed to store media file: {error}")`. -/
def storeFailure (error : IoError) : ArisaError :=
  .internal ("failed to store media file: " ++ error.message)

namespace StoreIo

/-- A system on which every write succeeds. -/
def healthy (uuid : Nat → String) (distinct : Function.Injective uuid) : StoreIo where
  uuid
  uuid_injective := distinct
  write _ := .written

variable (io : StoreIo) (path : String)

def filePath (number : Nat) : String :=
  joinPath path (io.uuid number)

/-- The files of one request have paths of their own. -/
theorem filePath_injective : Function.Injective (io.filePath path) :=
  (joinPath_injective path).comp io.uuid_injective

/-- `Uuid::new_v4` returns names that are not in the directory. -/
def Fresh (directory : Directory) : Prop :=
  ∀ number, directory (io.filePath path number) = none

end StoreIo

/-- The loop of `store`. -/
def storeAll (io : StoreIo) (path : String) (stored : List MediaFile) (directory : Directory) :
    List Proto.MediaFile → Except ArisaError (List MediaFile) × Directory
  | [] => (.ok stored, directory)
  | file :: rest =>
      if file.data.isEmpty then
        (.error (.invalidArgument "media files cannot be empty"), removeStored stored directory)
      else
        let filePath := io.filePath path stored.length
        match io.write stored.length with
        | .notCreated error => (.error (storeFailure error), removeStored stored directory)
        | .broken error landed =>
            (.error (storeFailure error),
              removeStored stored
                (Function.update directory filePath (some (file.data.take landed))))
        | .written =>
            storeAll io path (stored ++ [storedFile filePath file])
              (Function.update directory filePath (some file.data)) rest

/-- `store`: the result and the directory it leaves. -/
def store (io : StoreIo) (path : String) (directory : Directory) (files : List Proto.MediaFile) :
    Except ArisaError (List MediaFile) × Directory :=
  if files.isEmpty then
    (.error (.invalidArgument "at least one media file is required"), directory)
  else storeAll io path [] directory files

variable {io : StoreIo} {path : String} {before : Directory}

/-- The loop after it has stored `files`. -/
structure Saved (io : StoreIo) (path : String) (before : Directory)
    (files : List Proto.MediaFile) (stored : List MediaFile) (directory : Directory) : Prop where
  stored_eq : stored = files.mapIdx fun number => storedFile (io.filePath path number)
  holds : ∀ (number : Nat) (file : Proto.MediaFile), files[number]? = some file →
    directory (io.filePath path number) = some file.data
  accounts : io.Fresh path before → (⟨directory, stored, none⟩ : Upload).Accounts before

namespace Saved

variable {files : List Proto.MediaFile} {stored : List MediaFile} {directory : Directory}

/-- Before the first file nothing is saved. -/
theorem initial (before : Directory) : Saved io path before [] [] before where
  stored_eq := rfl
  holds := by simp
  accounts _ := Upload.accounts_initial before

/-- There is a record for each file. -/
theorem length_eq (saved : Saved io path before files stored directory) :
    stored.length = files.length := by
  rw [saved.stored_eq, List.length_mapIdx]

/-- The next name is not one of those recorded. -/
theorem path_ne (saved : Saved io path before files stored directory) :
    ∀ recorded ∈ stored, recorded.path ≠ io.filePath path files.length := by
  intro recorded member same
  rw [saved.stored_eq] at member
  obtain ⟨number, bound, rfl⟩ := List.mem_mapIdx.mp member
  have equal : number = files.length := io.filePath_injective path same
  omega

/-- One more file is saved under the next number. -/
theorem concat (saved : Saved io path before files stored directory) (file : Proto.MediaFile) :
    Saved io path before (files ++ [file])
      (stored ++ [storedFile (io.filePath path stored.length) file])
      (Function.update directory (io.filePath path stored.length) (some file.data)) where
  stored_eq := by
    rw [saved.length_eq, List.mapIdx_append, ← saved.stored_eq]
    simp
  holds := by
    intro number other found
    rw [saved.length_eq]
    rcases getElem?_concat_eq_some.mp found with earlier | ⟨rfl, rfl⟩
    · have old := (List.getElem?_eq_some_iff.mp earlier).1
      have different : io.filePath path number ≠ io.filePath path files.length :=
        fun same => Nat.ne_of_lt old (io.filePath_injective path same)
      rw [Function.update_of_ne different]
      exact saved.holds number other earlier
    · rw [Function.update_self]
  accounts := by
    intro fresh
    have absent : before (storedFile (io.filePath path stored.length) file).path = none :=
      fresh _
    exact (saved.accounts fresh).record absent file.data (by simp)

/-- `remove_stored` takes the directory back to what it was. -/
theorem removeStored_eq (saved : Saved io path before files stored directory)
    (fresh : io.Fresh path before) : removeStored stored directory = before :=
  (saved.accounts fresh).removeStored_eq

/-- A file that was created but not recorded stays. -/
theorem removeStored_update (saved : Saved io path before files stored directory)
    (fresh : io.Fresh path before) (bytes : Option Bytes) :
    removeStored stored (Function.update directory (io.filePath path files.length) bytes) =
      Function.update before (io.filePath path files.length) bytes := by
  ext name
  have unrecorded := saved.path_ne
  rw [removeStored_apply]
  by_cases same : name = io.filePath path files.length
  · subst same
    have none : ¬ ∃ recorded ∈ stored, recorded.path = io.filePath path files.length := by
      rintro ⟨recorded, member, equal⟩
      exact unrecorded recorded member equal
    rw [if_neg none, Function.update_self, Function.update_self]
  · have restored := congrFun (saved.removeStored_eq fresh) name
    rw [removeStored_apply] at restored
    rw [Function.update_of_ne same, Function.update_of_ne same, restored]

end Saved

namespace StoreIo

variable (io)

/-- The loop gets past a file. -/
def Stores (number : Nat) (file : Proto.MediaFile) : Prop :=
  file.data ≠ [] ∧ io.write number = .written

/-- The file at which the loop stops. -/
structure StopsAt (files : List Proto.MediaFile) (number : Nat) (file : Proto.MediaFile) :
    Prop where
  found : files[number]? = some file
  stops : ¬ io.Stores number file
  earlier : ∀ (index : Nat) (other : Proto.MediaFile), index < number →
    files[index]? = some other → io.Stores index other

/-- What is in the directory besides the files that were there. -/
def leftover (path : String) (before : Directory) (number : Nat) (file : Proto.MediaFile) :
    Directory :=
  if file.data = [] then before
  else
    match io.write number with
    | .broken _ landed =>
        Function.update before (io.filePath path number) (some (file.data.take landed))
    | _ => before

/-- The loop stops at a write that breaks off after it has created its file. -/
def BreaksOff (files : List Proto.MediaFile) : Prop :=
  ∃ number file error landed, io.StopsAt files number file ∧ file.data ≠ [] ∧
    io.write number = .broken error landed

variable {io}

/-- The loop stops once. -/
theorem StopsAt.unique {files : List Proto.MediaFile} {number other : Nat}
    {file otherFile : Proto.MediaFile} (left : io.StopsAt files number file)
    (right : io.StopsAt files other otherFile) : number = other ∧ file = otherFile := by
  rcases Nat.lt_trichotomy number other with before | rfl | after
  · exact absurd (right.earlier number file before left.found) left.stops
  · exact ⟨rfl, Option.some.inj (left.found.symm.trans right.found)⟩
  · exact absurd (left.earlier other otherFile after right.found) right.stops

/-- Only a write that breaks off leaves something. -/
theorem leftover_of_not_broken {number : Nat} {file : Proto.MediaFile}
    (clean : ∀ error landed, file.data ≠ [] → io.write number ≠ .broken error landed) :
    io.leftover path before number file = before := by
  unfold leftover
  split
  · rfl
  · next nonempty =>
      split
      · next error landed broken => exact absurd broken (clean error landed nonempty)
      · rfl

/-- A write that breaks off leaves the bytes that have landed. -/
theorem leftover_of_broken {number : Nat} {file : Proto.MediaFile} {error : IoError}
    {landed : Nat} (nonempty : file.data ≠ []) (broken : io.write number = .broken error landed) :
    io.leftover path before number file =
      Function.update before (io.filePath path number) (some (file.data.take landed)) := by
  simp only [leftover, nonempty, if_false, broken]

end StoreIo

/-- One turn of the loop: it records the file, or it stops and removes. -/
theorem storeAll_cons {done rest : List Proto.MediaFile} {file : Proto.MediaFile}
    {stored : List MediaFile} {directory : Directory}
    (saved : Saved io path before done stored directory) :
    (io.Stores done.length file ∧
      storeAll io path stored directory (file :: rest) =
        storeAll io path (stored ++ [storedFile (io.filePath path stored.length) file])
          (Function.update directory (io.filePath path stored.length) (some file.data)) rest) ∨
    (¬ io.Stores done.length file ∧ ∃ error left,
      storeAll io path stored directory (file :: rest) = (.error error, left) ∧
      (io.Fresh path before → left = io.leftover path before done.length file)) := by
  have length := saved.length_eq
  by_cases empty : file.data = []
  · refine .inr ⟨fun stores => stores.1 empty, .invalidArgument "media files cannot be empty",
      removeStored stored directory, ?_, fun fresh => ?_⟩
    · simp only [storeAll, empty, List.isEmpty_nil, if_true]
    · rw [saved.removeStored_eq fresh, StoreIo.leftover, if_pos empty]
  · have nonempty : file.data.isEmpty = false := by simpa using empty
    cases outcome : io.write done.length with
    | written =>
        refine .inl ⟨⟨empty, outcome⟩, ?_⟩
        rw [← length] at outcome
        simp only [storeAll, nonempty, outcome, Bool.false_eq_true, if_false]
    | notCreated error =>
        refine .inr ⟨fun stores => ?_, storeFailure error, removeStored stored directory, ?_,
          fun fresh => ?_⟩
        · exact absurd (stores.2.symm.trans outcome) (by simp)
        · simp only [storeAll, nonempty, length, outcome, Bool.false_eq_true, if_false]
        · simp only [saved.removeStored_eq fresh, StoreIo.leftover, empty, if_false, outcome]
    | broken error landed =>
        refine .inr ⟨fun stores => ?_, storeFailure error, removeStored stored
          (Function.update directory (io.filePath path done.length)
            (some (file.data.take landed))), ?_, fun fresh => ?_⟩
        · exact absurd (stores.2.symm.trans outcome) (by simp)
        · simp only [storeAll, nonempty, length, outcome, Bool.false_eq_true, if_false]
        · rw [saved.removeStored_update fresh, StoreIo.leftover_of_broken empty outcome]

/-- Every file is one that the loop gets past. -/
def StoreIo.StoresAll (io : StoreIo) (files : List Proto.MediaFile) : Prop :=
  ∀ (number : Nat) (file : Proto.MediaFile), files[number]? = some file → io.Stores number file

/-- One more file that can be stored. -/
theorem StoreIo.StoresAll.concat {done : List Proto.MediaFile} {file : Proto.MediaFile}
    (all : io.StoresAll done) (stores : io.Stores done.length file) :
    io.StoresAll (done ++ [file]) :=
  forall_getElem?_concat all stores

/-- How the loop ends: with every file stored, or at the file it stops at. -/
theorem storeAll_ends {done rest : List Proto.MediaFile} {stored : List MediaFile}
    {directory : Directory} (saved : Saved io path before done stored directory)
    (all : io.StoresAll done) :
    (∃ final after, storeAll io path stored directory rest = (.ok final, after) ∧
      Saved io path before (done ++ rest) final after ∧ io.StoresAll (done ++ rest)) ∨
    (∃ error left number file, io.StopsAt (done ++ rest) number file ∧
      storeAll io path stored directory rest = (.error error, left) ∧
      (io.Fresh path before → left = io.leftover path before number file)) := by
  induction rest generalizing done stored directory with
  | nil =>
      rw [List.append_nil]
      exact .inl ⟨stored, directory, rfl, saved, all⟩
  | cons file rest ih =>
      rcases @storeAll_cons io path before done rest file stored directory saved with
        ⟨stores, goesOn⟩ | ⟨stops, error, left, stopped⟩
      · have again : done ++ file :: rest = done ++ [file] ++ rest := by simp
        rw [goesOn, again]
        exact ih (saved.concat file) (all.concat stores)
      · refine .inr ⟨error, left, done.length, file, ⟨by simp, stops, ?_⟩, stopped⟩
        intro number other before found
        rw [List.getElem?_append_left before] at found
        exact all number other found

/-- How `store` ends. -/
theorem store_ends (io : StoreIo) (path : String) (before : Directory)
    (files : List Proto.MediaFile) :
    (files = [] ∧ ∃ error, store io path before files = (.error error, before)) ∨
    (files ≠ [] ∧ io.StoresAll files ∧ ∃ stored after,
      store io path before files = (.ok stored, after) ∧
      Saved io path before files stored after) ∨
    (∃ error left number file, io.StopsAt files number file ∧
      store io path before files = (.error error, left) ∧
      (io.Fresh path before → left = io.leftover path before number file)) := by
  by_cases none : files = []
  · subst none
    exact .inl ⟨rfl, _, rfl⟩
  · have loop : store io path before files = storeAll io path [] before files := by
      simp [store, none]
    rw [loop]
    have nothing : io.StoresAll [] := by simp [StoreIo.StoresAll]
    rcases @storeAll_ends io path before [] files [] before (Saved.initial before) nothing with
      ⟨stored, after, returned, saved, all⟩ | stopped
    · exact .inr (.inl ⟨none, all, stored, after, returned, saved⟩)
    · exact .inr (.inr stopped)

/-- No file that a failed `store` has created is left. -/
def LeavesNothing (io : StoreIo) (path : String)
    (result : Except ArisaError (List MediaFile) × Directory) : Prop :=
  ∀ error, result.1 = .error error → ∀ number, result.2 (io.filePath path number) = none

/-- A failed upload leaves nothing behind exactly when the write it fails at, if it fails at one,
has not created its file. -/
theorem store_leavesNothing_iff (io : StoreIo) (path : String) (before : Directory)
    (files : List Proto.MediaFile) (fresh : io.Fresh path before) :
    LeavesNothing io path (store io path before files) ↔ ¬ io.BreaksOff files := by
  rcases store_ends io path before files with ⟨rfl, error, failed⟩ |
    ⟨-, all, stored, after, succeeded, -⟩ | ⟨error, left, number, file, stops, failed, rest⟩
  · rw [failed]
    refine iff_of_true (fun _ _ => fresh) ?_
    rintro ⟨number, file, error, landed, stops, -⟩
    exact absurd stops.found (by simp)
  · rw [succeeded]
    refine iff_of_true (by simp [LeavesNothing]) ?_
    rintro ⟨number, file, error, landed, stops, -⟩
    exact stops.stops (all number file stops.found)
  · rw [failed, rest fresh]
    constructor
    · rintro clean ⟨other, otherFile, otherError, landed, otherStops, nonempty, broken⟩
      obtain ⟨rfl, rfl⟩ := stops.unique otherStops
      have absent : io.leftover path before number file (io.filePath path number) = none :=
        clean error rfl number
      rw [StoreIo.leftover_of_broken nonempty broken, Function.update_self] at absent
      cases absent
    · intro unbroken _ _
      rw [StoreIo.leftover_of_not_broken]
      · exact fresh
      · intro otherError landed nonempty broken
        exact unbroken ⟨number, file, otherError, landed, stops, nonempty, broken⟩

def twoFiles : List Proto.MediaFile :=
  [⟨some "a.bin", "", [1]⟩, ⟨some "b.bin", "", [2, 3]⟩]

/-- A system on which the second file of a call cannot be created. -/
def secondNotCreated : StoreIo :=
  { StoreIo.healthy tallyName tallyName_injective with
    write := fun number =>
      if number = 1 then .notCreated ⟨"No space left on device"⟩ else .written }

/-- The first of two files is removed again. -/
theorem store_leavesNothing_secondNotCreated :
    LeavesNothing secondNotCreated "/media"
      (store secondNotCreated "/media" earlierUpload twoFiles) := by
  refine (store_leavesNothing_iff secondNotCreated "/media" earlierUpload twoFiles
    earlierUpload_fresh).mpr ?_
  rintro ⟨number, file, error, landed, -, -, broken⟩
  simp only [secondNotCreated] at broken
  split at broken
  · cases broken
  · cases broken

/-- A system whose disk is full in the middle of the second file of a call. -/
def diskFills : StoreIo :=
  { StoreIo.healthy tallyName tallyName_injective with
    write := fun number =>
      if number = 1 then .broken ⟨"No space left on device"⟩ 1 else .written }

/-- The second of two files was created, and its first byte stays. -/
theorem diskFills_leaves :
    diskFills.Fresh "/media" (fun _ => none) ∧
      ¬ LeavesNothing diskFills "/media" (store diskFills "/media" (fun _ => none) twoFiles) := by
  refine ⟨fun _ => rfl, fun clean => ?_⟩
  have failed : (store diskFills "/media" (fun _ => none) twoFiles).1 =
      .error (storeFailure ⟨"No space left on device"⟩) := rfl
  have stays : (store diskFills "/media" (fun _ => none) twoFiles).2
      (diskFills.filePath "/media" 1) = some [2] := by
    decide
  rw [clean _ failed 1] at stays
  cases stays

end Arisa.Media
