import Arisa.Database.Channels
import Arisa.Std.Interspersed
import Arisa.Std.Split

/-!
# Lists of display members

`display_user_ids` holds ids as numbers, as decimal strings, or as one text with
commas. Reading any of these gives back the ids that were written.
-/

namespace Arisa.Database

open Arisa.Crypto Arisa.Std

/-- A JSON value that writes an id: a number or its decimal string. -/
inductive WritesId : Value → Int64 → Prop where
  | number (id : Int64) : WritesId (.number (.ofInt64 id)) id
  | text {text : String} {id : Int64} (writes : WritesI64 text.toList id) :
      WritesId (.string text) id

/-- A JSON value that is neither an `i64` nor the text of one. -/
def NoId (value : Value) : Prop :=
  value.asI64 = none ∧ ∀ text, value = .string text → parseI64 text.toList = none

/-- A piece between commas that writes an id, with white space around it. -/
def PieceWrites (piece : List Char) (id : Int64) : Prop :=
  ∃ left text right, piece = left ++ text ++ right ∧ (∀ char ∈ left, isWhitespace char) ∧
    (∀ char ∈ right, isWhitespace char) ∧ WritesI64 text id

/-- A piece between commas that is not the text of an `i64`. -/
def NoIdPiece (piece : List Char) : Prop :=
  ',' ∉ piece ∧ parseI64 (trim piece) = none

/-- The ways in which a JSON value writes a list of ids, with other elements in between. -/
inductive WritesIds : Value → List Int64 → Prop where
  | array {values : List Value} {ids : List Int64}
      (elements : Interspersed WritesId NoId values ids) : WritesIds (.array values) ids
  | text {text : String} {first : List Char} {others : List (List Char)} {ids : List Int64}
      (joined : text.toList = first ++ others.flatMap (',' :: ·))
      (pieces : Interspersed PieceWrites NoIdPiece (first :: others) ids) :
      WritesIds (.string text) ids

/-- A value that writes an id is read as the id. -/
theorem displayUserId_of_writes (value : Value) (id : Int64) (writes : WritesId value id) :
    displayUserId value = some id := by
  cases writes with
  | number id => simp [displayUserId]
  | text writes => exact writes.parse

/-- Noise is passed over. -/
theorem displayUserId_of_noId (value : Value) (noise : NoId value) :
    displayUserId value = none := by
  obtain ⟨notNumber, notText⟩ := noise
  rw [displayUserId, notNumber]
  cases value with
  | string text => exact notText text rfl
  | _ => rfl

/-- A piece of a text is read as the id it writes, with white space around it. -/
theorem parseI64_of_pieceWrites (piece : List Char) (id : Int64) (writes : PieceWrites piece id) :
    parseI64 (trim piece) = some id := by
  obtain ⟨left, text, right, rfl, before, after, number⟩ := writes
  rw [trim_padded before after number.form.nonempty number.form.solid]
  exact number.parse

/-- No piece of a text has a comma of its own. -/
theorem PieceWrites.not_mem_comma {piece : List Char} {id : Int64}
    (writes : PieceWrites piece id) : ',' ∉ piece := by
  obtain ⟨left, text, right, rfl, before, after, number⟩ := writes
  have solid : ¬ isWhitespace ',' := by decide
  simp only [List.mem_append, not_or]
  exact ⟨⟨fun member => solid (before _ member), number.form.not_mem_comma⟩,
    fun member => solid (after _ member)⟩

/-- However a list of ids is written, it is read as that list. -/
theorem parseI64ArrayValue_of_writes {value : Value} {ids : List Int64}
    (writes : WritesIds value ids) :
    parseI64ArrayValue value = if ids.isEmpty then none else some ids := by
  have filled : (some ids).filter (fun ids => ¬ ids.isEmpty) =
      if ids.isEmpty then none else some ids := by
    cases ids <;> rfl
  cases writes with
  | @array values _ elements =>
      have decoded : values.filterMap displayUserId = ids :=
        elements.filterMap_eq displayUserId_of_writes displayUserId_of_noId
      rw [← filled, parseI64ArrayValue, decoded]
  | @text text first others _ joined pieces =>
      have free : ∀ piece ∈ first :: others, ',' ∉ piece :=
        pieces.forall_mem (fun _ _ writes => writes.not_mem_comma) fun _ noise => noise.1
      have decoded : (first :: others).filterMap (fun piece => parseI64 (trim piece)) = ids :=
        pieces.filterMap_eq parseI64_of_pieceWrites fun _ (noise : NoIdPiece _) => noise.2
      rw [← filled, parseI64ArrayValue, joined, split_of_join free, decoded]

/-- A row whose `display_user_ids` writes a list of ids yields that list; there is no list
exactly when it has no ids. -/
theorem parseDisplayUserIds_of_writes (serde : Serde) {raw : String} {metadata value : Value}
    {ids : List Int64} (read : serde.read raw = some metadata)
    (field : metadata.get "display_user_ids" = some value) (writes : WritesIds value ids) :
    parseDisplayUserIds serde raw = if ids.isEmpty then none else some ids := by
  simp only [parseDisplayUserIds, read, Option.bind_eq_bind, Option.bind_some, field]
  exact parseI64ArrayValue_of_writes writes

/-- A row with a word among its ids. -/
def displayText : String := "\x7b\"display_user_ids\":\"12 ,me,-5\"\x7d"

def displaySerde : Serde where
  fromStr text :=
    if text = displayText then .ok (.object [("display_user_ids", .string "12 ,me,-5")])
    else .error "expected value at line 1 column 1"
  toString _ := "\x7b\x7d"

/-- The text of the example writes two ids, with noise between them. -/
theorem displayText_writes : WritesIds (.string "12 ,me,-5") [12, -5] := by
  have pieces : "12 ,me,-5".toList =
      "12 ".toList ++ ["me".toList, "-5".toList].flatMap (',' :: ·) := by decide
  refine .text pieces (.value ⟨[], "12".toList, " ".toList, rfl, List.forall_mem_nil _, ?_, ?_⟩ ?_)
  · exact List.forall_mem_singleton.mpr rfl
  · exact writesI64_toString 12
  · refine .noise ⟨by decide, by decide⟩ (.value ⟨[], "-5".toList, [], rfl, ?_, ?_, ?_⟩ .nil)
    · exact List.forall_mem_nil _
    · exact List.forall_mem_nil _
    · exact writesI64_toString (-5)

/-- It is read as the two ids. -/
theorem displayText_ids : parseDisplayUserIds displaySerde displayText = some [12, -5] :=
  parseDisplayUserIds_of_writes displaySerde rfl rfl displayText_writes

end Arisa.Database
