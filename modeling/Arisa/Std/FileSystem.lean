import Arisa.Std.BigEndian
import Arisa.Std.Split

/-!
# File systems

A tree of directories and files, addressed by the names on the way from its
root. A path is cut at its slashes and empty names are dropped, so that a doubled
slash counts once.
-/

namespace Arisa.Std

/-- The names of a path. -/
def components (path : String) : List String :=
  ((split '/' path.toList).filter fun name => ¬ name.isEmpty).map String.ofList

/-- What follows a slash continues the names before it. -/
theorem components_append {directory path : String} {rest : List Char}
    (slash : path.toList = '/' :: rest) :
    components (directory ++ path) = components directory ++ components path := by
  simp only [components, String.toList_append, slash, split_append, List.filter_append,
    List.map_append]
  simp [split]

inductive Node where
  | directory
  | file (bytes : Bytes)
deriving DecidableEq

/-- A file system: whatever it contains lies in directories. -/
structure FileSystem where
  node : List String → Option Node
  rooted : ∀ path name, node (path ++ [name]) ≠ none → node path = some .directory

namespace FileSystem

/-- `Path::exists`: with a slash at its end only a directory is meant. -/
def pathExists (files : FileSystem) (path : String) : Bool :=
  match files.node (components path) with
  | none => false
  | some .directory => true
  | some (.file _) => path.toList.getLast? ≠ some '/'

/-- `fs::read`, without the reason of a failure. -/
def read (files : FileSystem) (path : String) : Option Bytes :=
  match files.node (components path) with
  | some (.file bytes) => some bytes
  | _ => none

/-- `fs::read_to_string`, without the reason of a failure. -/
def readToString (files : FileSystem) (path : String) : Option String :=
  (files.read path).bind fun bytes => String.fromUTF8? bytes.toByteArray

/-- Both file systems hold the same at `directory` and below it. -/
def SameBelow (directory : String) (left right : FileSystem) : Prop :=
  ∀ rest, left.node (components directory ++ rest) = right.node (components directory ++ rest)

/-- A file below the directory reads the same in both. -/
theorem SameBelow.read {directory path : String} {left right : FileSystem} {rest : List Char}
    (same : SameBelow directory left right) (slash : path.toList = '/' :: rest) :
    left.read (directory ++ path) = right.read (directory ++ path) := by
  simp only [FileSystem.read, components_append slash, same (components path)]

/-- The directory exists in both or in neither. -/
theorem SameBelow.pathExists {directory : String} {left right : FileSystem}
    (same : SameBelow directory left right) :
    left.pathExists directory = right.pathExists directory := by
  have here := same []
  rw [List.append_nil] at here
  simp only [FileSystem.pathExists, here]

/-- What lies below a path is longer than it. -/
theorem shorter {path full : List String} {name : String} (below : path ++ [name] <+: full) :
    path <+: full ∧ path ≠ full := by
  refine ⟨(List.prefix_append path [name]).trans below, ?_⟩
  rintro rfl
  have length := below.length_le
  simp at length

/-- The file system of the given files and of the directories they need. -/
def ofFiles (files : List (List String × Bytes)) : FileSystem where
  node path :=
    if ∃ file ∈ files, path <+: file.1 ∧ path ≠ file.1 then some .directory
    else (files.lookup path).map Node.file
  rooted path name present := by
    apply if_pos
    split at present
    · rename_i inside
      obtain ⟨file, listed, below, -⟩ := inside
      exact ⟨file, listed, shorter below⟩
    · obtain ⟨bytes, found⟩ : ∃ bytes, files.lookup (path ++ [name]) = some bytes := by
        rw [← Option.ne_none_iff_exists']
        intro none
        rw [none] at present
        exact present rfl
      obtain ⟨before, after, rfl, -⟩ := List.lookup_eq_some_iff.mp found
      exact ⟨_, List.mem_append_right _ (List.mem_cons_self ..), shorter (List.prefix_refl _)⟩

/-- Files that stand elsewhere change nothing below a directory. -/
theorem sameBelow_append {directory : String} {files others : List (List String × Bytes)}
    (elsewhere : ∀ file ∈ others, ¬ components directory <+: file.1) :
    SameBelow directory (ofFiles files) (ofFiles (files ++ others)) := by
  intro rest
  have inside (path : List String) :
      (∃ file ∈ files ++ others, components directory ++ rest <+: file.1 ∧ path ≠ file.1) ↔
        ∃ file ∈ files, components directory ++ rest <+: file.1 ∧ path ≠ file.1 := by
    constructor
    · rintro ⟨file, listed, below, proper⟩
      rcases List.mem_append.mp listed with listed | listed
      · exact ⟨file, listed, below, proper⟩
      · exact absurd ((List.prefix_append _ _).trans below) (elsewhere file listed)
    · rintro ⟨file, listed, below⟩
      exact ⟨file, List.mem_append_left _ listed, below⟩
  have absent : others.lookup (components directory ++ rest) = none := by
    rw [List.lookup_eq_none_iff]
    intro file listed
    rw [bne_iff_ne]
    intro same
    exact elsewhere file listed (same ▸ List.prefix_append _ _)
  simp only [ofFiles, inside, List.lookup_append, absent, Option.or_none]

end FileSystem

end Arisa.Std
