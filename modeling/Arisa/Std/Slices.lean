/-!
# Consecutive slices

`slices size items` cuts a list at the multiples of `size`; only the last slice
may be shorter. It is stated by offsets, as a loop over a range with a stride
states it, and `slices_step` is the recursion that proofs use.
-/

namespace Arisa.Std

variable {α : Type}

/-- The slices of `items` that start at offset `0`, `size`, `2 * size`, ... -/
def slices (size : Nat) (items : List α) : List (List α) :=
  (List.range ((items.length + size - 1) / size)).map fun index =>
    (items.drop (index * size)).take size

/-- Nothing has no slices. -/
@[simp] theorem slices_nil {size : Nat} (positive : 0 < size) :
    slices size ([] : List α) = [] := by
  have short : size - 1 < size := by omega
  simp [slices, short]

/-- The first slice, and the slices of what it leaves. -/
theorem slices_step {size : Nat} (positive : 0 < size) {items : List α} (nonempty : items ≠ []) :
    slices size items = items.take size :: slices size (items.drop size) := by
  have filled : 0 < items.length := List.length_pos_iff.mpr nonempty
  have count : (items.length + size - 1) / size =
      (items.length - size + size - 1) / size + 1 := by
    by_cases short : items.length ≤ size
    · have rest : (items.length - size + size - 1) / size = 0 := Nat.div_eq_of_lt (by omega)
      rw [rest]
      exact Nat.div_eq_of_lt_le (by omega) (by omega)
    · rw [show items.length + size - 1 = items.length - size + size - 1 + size by omega]
      exact Nat.add_div_right _ positive
  simp only [slices, List.length_drop, count, List.range_succ_eq_map, List.map_cons, Nat.zero_mul,
    List.drop_zero, List.map_map, List.cons.injEq, true_and]
  apply List.map_congr_left
  intro index _
  have offset : (index + 1) * size = size + index * size := by
    rw [Nat.succ_mul, Nat.add_comm]
  simp [Function.comp, List.drop_drop, offset]

/-- Induction along the slices of a list. -/
theorem slices_induction {size : Nat} (positive : 0 < size) {motive : List α → Prop}
    (nil : motive []) (step : ∀ items, items ≠ [] → motive (items.drop size) → motive items)
    (items : List α) : motive items := by
  induction count : items.length using Nat.strongRecOn generalizing items with
  | ind length ih =>
      by_cases empty : items = []
      · exact empty ▸ nil
      · have filled : 0 < items.length := List.length_pos_iff.mpr empty
        exact step items empty
          (ih (items.length - size) (by omega) (items.drop size) (List.length_drop ..))

/-- The slices partition the list. -/
theorem flatten_slices {size : Nat} (positive : 0 < size) (items : List α) :
    (slices size items).flatten = items := by
  induction items using slices_induction positive with
  | nil => rw [slices_nil positive, List.flatten_nil]
  | step items nonempty ih =>
      rw [slices_step positive nonempty, List.flatten_cons, ih, List.take_append_drop]

/-- No slice is empty. -/
theorem ne_nil_of_mem_slices {size : Nat} (positive : 0 < size) (items : List α) :
    ∀ slice ∈ slices size items, slice ≠ [] := by
  induction items using slices_induction positive with
  | nil => simp [slices_nil positive]
  | step items nonempty ih =>
      rw [slices_step positive nonempty, List.forall_mem_cons]
      refine ⟨?_, ih⟩
      intro empty
      rcases List.take_eq_nil_iff.mp empty with zero | nil
      · omega
      · exact nonempty nil

/-- Every slice of a whole number of slices is full. -/
theorem length_of_mem_slices {size : Nat} (positive : 0 < size) (items : List α)
    (whole : size ∣ items.length) : ∀ slice ∈ slices size items, slice.length = size := by
  induction items using slices_induction positive with
  | nil => simp [slices_nil positive]
  | step items nonempty ih =>
      have fits : size ≤ items.length := Nat.le_of_dvd (List.length_pos_iff.mpr nonempty) whole
      have rest : size ∣ (items.drop size).length := by
        rw [List.length_drop]
        exact Nat.dvd_sub whole (Nat.dvd_refl size)
      rw [slices_step positive nonempty, List.forall_mem_cons]
      exact ⟨List.length_take_of_le fits, ih rest⟩

/-- Slicing the concatenation of full slices returns them. -/
theorem slices_flatten {size : Nat} (positive : 0 < size) (blocks : List (List α))
    (full : ∀ block ∈ blocks, block.length = size) : slices size blocks.flatten = blocks := by
  induction blocks with
  | nil => exact slices_nil positive
  | cons block rest ih =>
      obtain ⟨head, tail⟩ := List.forall_mem_cons.mp full
      have nonempty : (block :: rest).flatten ≠ [] := by
        intro empty
        have none := congrArg List.length empty
        simp only [List.flatten_cons, List.length_append, List.length_nil] at none
        omega
      rw [slices_step positive nonempty, List.flatten_cons, ← head, List.take_left,
        List.drop_left, head, ih tail]

end Arisa.Std
