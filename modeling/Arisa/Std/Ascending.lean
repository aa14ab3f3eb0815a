import Mathlib.Data.List.Nodup

/-!
# Strictly ordered lists

A list that is strictly ordered by a relation is determined by its elements.
-/

namespace Arisa.Std

universe u

variable {α : Type u} {before : α → α → Prop}

/-- Two strictly ordered lists with the same elements are equal. -/
theorem pairwise_ext (asymmetric : ∀ left right, before left right → ¬ before right left)
    {items others : List α} (ordered : items.Pairwise before)
    (otherOrdered : others.Pairwise before) (same : ∀ item, item ∈ items ↔ item ∈ others) :
    items = others := by
  have distinct : ∀ {list : List α}, list.Pairwise before → list.Nodup := by
    intro list pairwise
    apply pairwise.imp
    rintro left right precedes rfl
    exact asymmetric left left precedes precedes
  have permuted := (List.perm_ext_iff_of_nodup (distinct ordered) (distinct otherOrdered)).mpr same
  refine permuted.eq_of_pairwise ?_ ordered otherOrdered
  intro left right _ _ forward backward
  exact absurd backward (asymmetric left right forward)

end Arisa.Std
