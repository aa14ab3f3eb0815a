import Mathlib.Data.List.Perm.Basic

/-!
# Stable sorting

`slice::sort_by_key` on a list: what it returns is in ascending order, and items
with equal keys stand as they stood before.
-/

namespace Arisa.Std

variable {α κ : Type} [DecidableEq κ] [LE κ] [DecidableLE κ] [Std.IsLinearOrder κ]

/-- The second list is the first one, sorted by the key without moving equal keys. -/
structure StablySorted (key : α → κ) (items sorted : List α) : Prop where
  ascending : sorted.Pairwise fun left right => key left ≤ key right
  perm : sorted.Perm items
  stable : ∀ value, sorted.filter (fun item => key item = value) =
    items.filter fun item => key item = value

/-- A merge sort is stable: items with the same key keep their order. -/
theorem stablySorted_mergeSort (key : α → κ) (items : List α) :
    StablySorted key items (items.mergeSort fun left right => key left ≤ key right) := by
  have trans : ∀ first second third : α, decide (key first ≤ key second) = true →
      decide (key second ≤ key third) = true → decide (key first ≤ key third) = true := by
    intro first second third lower upper
    exact decide_eq_true (Std.le_trans (of_decide_eq_true lower) (of_decide_eq_true upper))
  have total : ∀ left right : α,
      (decide (key left ≤ key right) || decide (key right ≤ key left)) = true := by
    intro left right
    rw [Bool.or_eq_true, decide_eq_true_iff, decide_eq_true_iff]
    exact Std.le_total
  have perm := List.mergeSort_perm items fun left right => decide (key left ≤ key right)
  refine ⟨?_, perm, fun value => ?_⟩
  · exact (List.pairwise_mergeSort trans total items).imp of_decide_eq_true
  · -- The items with the key are sorted already, so they pass through the sort as a sublist.
    have equal : (items.filter fun item => key item = value).Pairwise
        fun left right => decide (key left ≤ key right) = true := by
      apply List.pairwise_of_forall_mem_list
      intro left inLeft right inRight
      have leftKey := of_decide_eq_true (List.mem_filter.mp inLeft).2
      have rightKey := of_decide_eq_true (List.mem_filter.mp inRight).2
      exact decide_eq_true (Std.le_of_eq (leftKey.trans rightKey.symm))
    have inside := (List.sublist_mergeSort trans total equal List.filter_sublist).filter
      fun item => decide (key item = value)
    rw [List.filter_filter] at inside
    simp only [Bool.and_self] at inside
    exact (inside.eq_of_length (perm.filter _).length_eq.symm).symm

end Arisa.Std
