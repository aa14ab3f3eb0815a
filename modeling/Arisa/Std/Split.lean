import Arisa.Std.Decimal

/-!
# The pieces of a text

`split` cuts a text at a separator and loses nothing: joining the pieces gives the
text, and splitting what was joined gives the pieces.
-/

namespace Arisa.Std

/-- There is always a first piece. -/
theorem split_ne_nil (separator : Char) (text : List Char) : split separator text ≠ [] := by
  cases text with
  | nil => simp [split]
  | cons char rest =>
      unfold split
      split
      · exact List.cons_ne_nil _ _
      · split <;> exact List.cons_ne_nil _ _

/-- The pieces of a text with a separator in it are those before and those after it. -/
theorem split_append (separator : Char) (before after : List Char) :
    split separator (before ++ separator :: after) =
      split separator before ++ split separator after := by
  induction before with
  | nil => simp [split]
  | cons char rest ih =>
      rw [List.cons_append, split, split, ih]
      by_cases found : char = separator
      · rw [if_pos found, if_pos found, List.cons_append]
      · rw [if_neg found, if_neg found]
        cases first : split separator rest with
        | nil => exact absurd first (split_ne_nil separator rest)
        | cons piece pieces => rfl

/-- A text is its pieces with the separator between them. -/
theorem split_join {separator : Char} {text first : List Char} {others : List (List Char)}
    (pieces : split separator text = first :: others) :
    text = first ++ others.flatMap (separator :: ·) := by
  induction text generalizing first others with
  | nil =>
      cases pieces
      rfl
  | cons char rest ih =>
      rw [split] at pieces
      split at pieces
      · rename_i found
        cases pieces
        cases tail : split separator rest with
        | nil => exact absurd tail (split_ne_nil separator rest)
        | cons piece others => simp [found, ih tail]
      · split at pieces
        · rename_i empty
          exact absurd empty (split_ne_nil separator rest)
        · rename_i tail
          cases pieces
          rw [ih tail, List.cons_append]

/-- Without a separator the first piece is the whole text. -/
theorem split_of_not_mem {separator : Char} {piece : List Char} (free : separator ∉ piece) :
    split separator piece = [piece] := by
  induction piece with
  | nil => rfl
  | cons char rest ih =>
      rw [List.mem_cons, not_or] at free
      rw [split, if_neg (Ne.symm free.1), ih free.2]

/-- Pieces without the separator are those of the text they are joined to. -/
theorem split_of_join {separator : Char} {first : List Char} {others : List (List Char)}
    (free : ∀ piece ∈ first :: others, separator ∉ piece) :
    split separator (first ++ others.flatMap (separator :: ·)) = first :: others := by
  induction others generalizing first with
  | nil =>
      rw [List.flatMap_nil, List.append_nil]
      exact split_of_not_mem (free first (List.mem_cons_self ..))
  | cons second others ih =>
      obtain ⟨head, tail⟩ := List.forall_mem_cons.mp free
      rw [List.flatMap_cons, List.cons_append, split_append, split_of_not_mem head, ih tail]
      rfl

/-- Trimming takes away the white space around a text. -/
theorem trim_padded {left text right : List Char} (before : ∀ char ∈ left, isWhitespace char)
    (after : ∀ char ∈ right, isWhitespace char) (filled : text ≠ [])
    (solid : ∀ char ∈ text, isWhitespace char = false) : trim (left ++ text ++ right) = text := by
  have started {blanks chars : List Char} (blank : ∀ char ∈ blanks, isWhitespace char)
      (filled : chars ≠ []) (solid : ∀ char ∈ chars, isWhitespace char = false)
      (rest : List Char) :
      (blanks ++ (chars ++ rest)).dropWhile isWhitespace = chars ++ rest := by
    rw [List.dropWhile_append_of_pos blank]
    obtain ⟨char, others, rfl⟩ := List.exists_cons_of_ne_nil filled
    rw [List.cons_append, List.dropWhile_cons, solid char (List.mem_cons_self ..)]
    rfl
  rw [trim, List.append_assoc, started before filled solid, List.reverse_append]
  have backwards := @started right.reverse text.reverse
    (fun char member => after char (List.mem_reverse.mp member))
    (by simpa using filled) (fun char member => solid char (List.mem_reverse.mp member)) []
  rw [List.append_nil] at backwards
  rw [backwards, List.reverse_reverse]

end Arisa.Std
