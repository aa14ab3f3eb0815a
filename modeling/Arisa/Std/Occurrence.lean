import Arisa.Std.Split

/-!
# The first occurrence of a separator

What `splitOnce` and its two relatives find, said without the search: the text in
front of a separator is the shortest that a separator follows.
-/

namespace Arisa.Std

/-- `before` is what stands in front of the first occurrence of `separator`. -/
def FirstAt (separator text before after : List Char) : Prop :=
  text = before ++ separator ++ after ∧
    ∀ front back, text = front ++ separator ++ back → before.length ≤ front.length

/-- A place stays the first behind one more character that does not begin an earlier one. -/
theorem FirstAt.cons {separator text before after : List Char} {char : Char}
    (first : FirstAt separator text before after)
    (notHere : ¬ separator <+: char :: text) :
    FirstAt separator (char :: text) (char :: before) after := by
  refine ⟨by rw [first.1]; rfl, ?_⟩
  intro front back whole
  cases front with
  | nil => exact absurd ⟨back, whole.symm⟩ notHere
  | cons other front =>
      have rest := (List.cons.inj whole).2
      exact Nat.succ_le_succ (first.2 front back rest)

/-- A place stays the first when a character in front of it is taken away. -/
theorem FirstAt.of_cons {separator text before after : List Char} {char : Char}
    (first : FirstAt separator (char :: text) (char :: before) after) :
    FirstAt separator text before after := by
  refine ⟨(List.cons.inj first.1).2, ?_⟩
  intro front back rest
  exact Nat.le_of_succ_le_succ (first.2 (char :: front) back (by rw [rest]; rfl))

/-- The first occurrence is unique. -/
theorem FirstAt.unique {separator text before after before' after' : List Char}
    (first : FirstAt separator text before after) (other : FirstAt separator text before' after') :
    before = before' ∧ after = after' := by
  have lengths := Nat.le_antisymm (first.2 _ _ other.1) (other.2 _ _ first.1)
  have same := first.1.symm.trans other.1
  rw [List.append_assoc, List.append_assoc] at same
  obtain ⟨rfl, tail⟩ := List.append_inj same lengths
  exact ⟨rfl, List.append_cancel_left tail⟩

/-- A text is split at the first place of the separator. -/
theorem splitOnce_eq_some_iff {separator : List Char} (filled : separator ≠ [])
    {text before after : List Char} :
    splitOnce separator text = some (before, after) ↔ FirstAt separator text before after := by
  induction text generalizing before with
  | nil =>
      refine iff_of_false (by simp [splitOnce]) ?_
      rintro ⟨whole, -⟩
      simp [filled] at whole
  | cons char rest ih =>
      rw [splitOnce]
      by_cases here : separator <+: char :: rest
      · rw [if_pos (List.isPrefixOf_iff_prefix.mpr here)]
        obtain ⟨tail, whole⟩ := here
        have found : FirstAt separator (char :: rest) [] tail :=
          ⟨whole.symm, fun _ _ _ => Nat.zero_le _⟩
        rw [← whole, List.drop_left, whole, Option.some.injEq, Prod.mk.injEq]
        constructor
        · rintro ⟨rfl, rfl⟩
          exact found
        · intro first
          exact found.unique first
      · rw [if_neg (by rwa [List.isPrefixOf_iff_prefix]), Option.map_eq_some_iff]
        constructor
        · rintro ⟨⟨front, back⟩, found, same⟩
          obtain ⟨rfl, rfl⟩ := Prod.mk.inj same
          exact (ih.mp found).cons here
        · intro first
          cases before with
          | nil => exact absurd ⟨after, first.1.symm⟩ here
          | cons other front =>
              obtain rfl : char = other := (List.cons.inj first.1).1
              exact ⟨(front, after), ih.mpr first.of_cons, rfl⟩

/-- A text without the separator is not split. -/
theorem splitOnce_eq_none_iff {separator : List Char} (filled : separator ≠ [])
    {text : List Char} : splitOnce separator text = none ↔ ¬ separator <:+: text := by
  induction text with
  | nil => simp [splitOnce, filled]
  | cons char rest ih =>
      rw [splitOnce, List.infix_cons_iff, not_or]
      by_cases here : separator <+: char :: rest
      · rw [if_pos (List.isPrefixOf_iff_prefix.mpr here)]
        exact iff_of_false (by simp) fun absent => absent.1 here
      · rw [if_neg (by rwa [List.isPrefixOf_iff_prefix]), Option.map_eq_none_iff, ih]
        exact (and_iff_right here).symm

/-- A piece ends where the separator first occurs, or with the text. -/
def Piece (separator text piece : List Char) : Prop :=
  (∃ after, FirstAt separator text piece after) ∨ ¬ separator <:+: text ∧ piece = text

/-- The first piece ends at that place, or with the text. -/
theorem firstPiece_eq_iff {separator : List Char} (filled : separator ≠ [])
    {text piece : List Char} : firstPiece separator text = piece ↔ Piece separator text piece := by
  unfold firstPiece Piece
  cases found : splitOnce separator text with
  | none =>
      have absent := (splitOnce_eq_none_iff filled).mp found
      constructor
      · rintro rfl
        exact .inr ⟨absent, rfl⟩
      · rintro (⟨after, first⟩ | ⟨-, rfl⟩)
        · exact absurd ⟨piece, after, first.1.symm⟩ absent
        · rfl
  | some parts =>
      obtain ⟨before, after⟩ := parts
      have first := (splitOnce_eq_some_iff filled).mp found
      constructor
      · rintro rfl
        exact .inl ⟨after, first⟩
      · rintro (⟨other, same⟩ | ⟨absent, -⟩)
        · exact (first.unique same).1
        · exact absurd ⟨before, after, first.1.symm⟩ absent

/-- The second piece lies between the first separator and the next one. -/
theorem secondPiece_eq_some_iff {separator : List Char} (filled : separator ≠ [])
    {text piece : List Char} :
    secondPiece separator text = some piece ↔
      ∃ before after, FirstAt separator text before after ∧ Piece separator after piece := by
  rw [secondPiece, Option.map_eq_some_iff]
  constructor
  · rintro ⟨⟨before, after⟩, found, same⟩
    exact ⟨before, after, (splitOnce_eq_some_iff filled).mp found,
      (firstPiece_eq_iff filled).mp same⟩
  · rintro ⟨before, after, first, same⟩
    exact ⟨(before, after), (splitOnce_eq_some_iff filled).mpr first,
      (firstPiece_eq_iff filled).mpr same⟩

end Arisa.Std
