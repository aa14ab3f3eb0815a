import Arisa.Android.Action
import Arisa.Std.FormUrlencoded
import Mathlib.Data.List.TakeWhile

/-!
# The URI of a stored file

`content_uri` of `action.rs`. The crate `url` is the parameter `Url`; what is
relied on of it is stated as `Url.Lawful`.
-/

namespace Arisa.Android

open Arisa.Media Arisa.Std Arisa.Std.FormUrlencoded

/-! ## The crate -/

/-- A character that no part of a URL encodes. -/
def isUnreserved (char : Char) : Bool :=
  char.isAlphanum || char ∈ ['-', '.', '_', '~']

/-- A segment that stands in a URL as it is: `.` and `..` would be resolved there. -/
def PlainSegment (segment : List Char) : Prop :=
  segment.all isUnreserved = true ∧ segment ≠ ['.'] ∧ segment ≠ ['.', '.']

/-- A plain segment has only unreserved characters. -/
theorem PlainSegment.char {segment : List Char} (plain : PlainSegment segment) {char : Char}
    (member : char ∈ segment) : isUnreserved char = true :=
  List.all_eq_true.mp plain.1 char member

instance (segment : List Char) : Decidable (PlainSegment segment) :=
  inferInstanceAs (Decidable (_ ∧ _))

/-- An absolute path of plain segments. -/
def PlainPath (path : String) : Prop :=
  path.toList.head? = some '/' ∧ ∀ segment ∈ split '/' path.toList, PlainSegment segment

instance (path : String) : Decidable (PlainPath path) :=
  inferInstanceAs (Decidable (_ ∧ _))

/-- What `content_uri` uses of the crate: the path that `set_path` leaves in the URL, and the query
that `append_pair` makes of the query before. -/
structure Url where
  setPath : String → List Char
  appendPair : List Char → String → String → List Char

/-- The documented behaviour: a path and a query stay in their parts of the URL, a plain path is
kept as it is, and the pairs are form data, written by a codec that loses nothing. -/
structure Url.Lawful (url : Url) (form : Codec) : Prop where
  noMark : ∀ path, '?' ∉ url.setPath path ∧ '#' ∉ url.setPath path
  plain : ∀ path, PlainPath path → url.setPath path = path.toList
  appendPair_eq : ∀ query name value,
    url.appendPair query name value = FormUrlencoded.appendPair form query name value
  form : form.Lawful

/-! ## The URI -/

section Uri

variable (url : Url)

/-- The query that the calls of `append_pair` leave. -/
def contentQuery (file : MediaFile) : List Char :=
  let query :=
    match file.name with
    | some name => url.appendPair [] "name" name
    | none => []
  url.appendPair query "mimeType" file.mime

/-- `Url::parse` of the file provider's URI, before a path is set. -/
def providerUri : String := "content://io.zugu.fileprovider"

def contentUri (file : MediaFile) : String :=
  String.ofList (providerUri.toList ++ url.setPath file.path ++ '?' :: contentQuery url file)

end Uri

/-- What stands before the query of a URI, and the query without its fragment. -/
def splitQuery (uri : List Char) : List Char × List Char :=
  let whole := uri.takeWhile (· ≠ '#')
  (whole.takeWhile (· ≠ '?'), (whole.dropWhile (· ≠ '?')).drop 1)

/-- A URI is split at its first mark: there is none before the query, and none after it. -/
theorem splitQuery_append {before query : List Char} (noMark : '?' ∉ before ∧ '#' ∉ before)
    (noFragment : '#' ∉ query) : splitQuery (before ++ '?' :: query) = (before, query) := by
  have whole : (before ++ '?' :: query).takeWhile (· ≠ '#') = before ++ '?' :: query := by
    apply List.takeWhile_eq_self_iff.mpr
    intro char member
    apply decide_eq_true
    rintro rfl
    rcases List.mem_append.mp member with early | late
    · exact noMark.2 early
    · rcases List.mem_cons.mp late with mark | late
      · exact absurd mark (by decide)
      · exact noFragment late
  have stops : ∀ char ∈ before, decide (char ≠ '?') = true := by
    intro char member
    apply decide_eq_true
    rintro rfl
    exact noMark.1 member
  rw [splitQuery, whole, List.takeWhile_append_of_pos stops, List.dropWhile_append_of_pos stops]
  simp

/-- The parameters that the file provider is handed. -/
def uriParameters (file : MediaFile) : List (String × String) :=
  file.name.toList.map (fun name => ("name", name)) ++ [("mimeType", file.mime)]

section Lawful

variable {url : Url} {form : Codec} (lawful : url.Lawful form)
include lawful

/-- The query holds the parameters, one pair after another. -/
theorem contentQuery_eq (file : MediaFile) :
    contentQuery url file = appendPairs form (uriParameters file) := by
  unfold contentQuery uriParameters appendPairs
  simp only [lawful.appendPair_eq]
  cases file.name with
  | none =>
      rw [Option.toList_none, List.map_nil, List.nil_append, List.foldl_cons, List.foldl_nil]
  | some name =>
      rw [Option.toList_some, List.map_cons, List.map_nil, List.cons_append, List.nil_append,
        List.foldl_cons, List.foldl_cons, List.foldl_nil]

/-- The query begins at the first mark: the path before it has none. -/
theorem splitQuery_contentUri (file : MediaFile) :
    splitQuery (contentUri url file).toList =
      (providerUri.toList ++ url.setPath file.path, appendPairs form (uriParameters file)) := by
  rw [contentUri, contentQuery_eq lawful, String.toList_ofList]
  apply splitQuery_append
  · obtain ⟨noQuery, noFragment⟩ := lawful.noMark file.path
    rw [List.mem_append, List.mem_append, not_or, not_or]
    exact ⟨⟨by decide, noQuery⟩, by decide, noFragment⟩
  · exact not_mem_appendPairs lawful.form (by decide) (by decide) (by decide) (uriParameters file)

/-- What stands before the query depends on the path alone and, for a plain path, names it; the
query is read back as the name and the type the client gave, whatever characters are in them. -/
theorem contentUri_read (file : MediaFile) :
    ∃ before query, splitQuery (contentUri url file).toList = (before, query) ∧
      before = providerUri.toList ++ url.setPath file.path ∧
      (PlainPath file.path → before = providerUri.toList ++ file.path.toList) ∧
      parse form query = some (uriParameters file) := by
  refine ⟨_, _, splitQuery_contentUri lawful file, rfl, ?_,
    parse_appendPairs lawful.form (uriParameters file)⟩
  intro plain
  rw [lawful.plain file.path plain]

end Lawful

/-! ## Percent-encoding -/

/-- A path with its marks of a query and of a fragment percent-encoded. -/
def encodeMarks (path : String) : List Char :=
  path.toList.flatMap fun char =>
    if char = '?' then ['%', '3', 'F'] else if char = '#' then ['%', '2', '3'] else [char]

/-- The encoded path has no mark of its own. -/
theorem noMark_encodeMarks (path : String) :
    '?' ∉ encodeMarks path ∧ '#' ∉ encodeMarks path := by
  have kept {mark : Char} (encoded : mark = '?' ∨ mark = '#') : mark ∉ encodeMarks path := by
    intro member
    obtain ⟨char, -, written⟩ := List.mem_flatMap.mp member
    split at written
    · rcases encoded with rfl | rfl <;> simp at written
    · split at written
      · rcases encoded with rfl | rfl <;> simp at written
      · rename_i query fragment
        rcases encoded with rfl | rfl
        · exact query (List.mem_singleton.mp written).symm
        · exact fragment (List.mem_singleton.mp written).symm
  exact ⟨kept (.inl rfl), kept (.inr rfl)⟩

/-- A plain path has slashes and unreserved characters in it, and no mark. -/
theorem PlainPath.char {path : String} (plain : PlainPath path) {char : Char}
    (member : char ∈ path.toList) : char = '/' ∨ isUnreserved char = true := by
  cases pieces : split '/' path.toList with
  | nil => exact absurd pieces (split_ne_nil '/' path.toList)
  | cons first others =>
      have segments := plain.2
      rw [pieces] at segments
      rw [split_join pieces] at member
      rcases List.mem_append.mp member with early | late
      · exact .inr ((segments first (List.mem_cons_self ..)).char early)
      · obtain ⟨segment, found, within⟩ := List.mem_flatMap.mp late
        rcases List.mem_cons.mp within with slash | within
        · exact .inl slash
        · exact .inr ((segments segment (List.mem_cons_of_mem _ found)).char within)

/-- A plain path has nothing to encode. -/
theorem encodeMarks_of_plain {path : String} (plain : PlainPath path) :
    encodeMarks path = path.toList := by
  have kept : ∀ char ∈ path.toList,
      (if char = '?' then ['%', '3', 'F'] else if char = '#' then ['%', '2', '3'] else [char]) =
        [char] := by
    intro char member
    have mark : char ≠ '?' ∧ char ≠ '#' := by
      constructor <;>
      · rintro rfl
        rcases plain.char member with slash | unreserved
        · exact absurd slash (by decide)
        · exact absurd unreserved (by decide)
    rw [if_neg mark.1, if_neg mark.2]
  rw [encodeMarks, List.flatMap_congr kept, List.flatMap_singleton']

/-- The crate as far as the paths and texts below go. -/
def percentUrl : Url := ⟨encodeMarks, FormUrlencoded.appendPair percent⟩

/-- This crate keeps what is relied on. -/
theorem percentUrl_lawful : percentUrl.Lawful percent where
  noMark := noMark_encodeMarks
  plain _ := encodeMarks_of_plain
  appendPair_eq _ _ _ := rfl
  form := percent_lawful

/-- A name that looks like a parameter is read back as a name. -/
theorem contentUri_read_disguised :
    ∃ query, splitQuery (contentUri percentUrl
        ⟨"/sdcard/arisa_temp/1f0c", "image/png", some "cat.png&mimeType=text/html"⟩).toList =
        (providerUri.toList ++ "/sdcard/arisa_temp/1f0c".toList, query) ∧
      parse percent query =
        some [("name", "cat.png&mimeType=text/html"), ("mimeType", "image/png")] := by
  obtain ⟨before, query, parts, -, named, read⟩ := contentUri_read percentUrl_lawful
    ⟨"/sdcard/arisa_temp/1f0c", "image/png", some "cat.png&mimeType=text/html"⟩
  rw [named (by decide)] at parts
  exact ⟨query, parts, read⟩

/-! ## The paths of stored files -/

/-- A name that can be a segment of a plain path, as that of a UUID. -/
def PlainName (name : String) : Prop := PlainSegment name.toList

/-- A stored file has a plain path if its directory has one. -/
theorem PlainPath.join {directory name : String} (plain : PlainPath directory)
    (named : PlainName name) : PlainPath (joinPath directory name) := by
  have single : split '/' name.toList = [name.toList] := by
    apply split_of_not_mem
    intro member
    exact absurd (PlainSegment.char named member) (by decide)
  obtain ⟨root, segments⟩ := plain
  unfold joinPath
  split
  · rename_i ended
    rcases ended with rfl | slash
    · cases root
    · obtain ⟨before, found⟩ := List.getLast?_eq_some_iff.mp slash
      rw [found, split_append] at segments
      refine ⟨?_, ?_⟩
      · rw [String.toList_append, List.head?_append, root]
        rfl
      · rw [String.toList_append, found, List.append_assoc, List.singleton_append, split_append,
          single]
        intro segment member
        rcases List.mem_append.mp member with early | late
        · exact segments segment (List.mem_append_left _ early)
        · rw [List.mem_singleton.mp late]
          exact named
  · refine ⟨?_, ?_⟩
    · rw [String.toList_append, String.toList_append, List.head?_append, List.head?_append, root]
      rfl
    · rw [String.toList_append, String.toList_append, List.append_assoc,
        show "/".toList ++ name.toList = '/' :: name.toList from rfl, split_append, single]
      intro segment member
      rcases List.mem_append.mp member with early | late
      · exact segments segment early
      · rw [List.mem_singleton.mp late]
        exact named

end Arisa.Android
