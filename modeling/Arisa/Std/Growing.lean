import Mathlib.Data.List.Basic

/-!
# Lists that grow by one

An entry of a list with one more item at its end is an entry of the list, or
that item.
-/

namespace Arisa.Std

variable {α : Type}

/-- An item of the longer list is one of before or the one added. -/
theorem getElem?_concat_eq_some {items : List α} {last item : α} {index : Nat} :
    (items ++ [last])[index]? = some item ↔
      items[index]? = some item ∨ index = items.length ∧ item = last := by
  rcases Nat.lt_or_ge index items.length with old | new
  · rw [List.getElem?_append_left old]
    constructor
    · exact .inl
    · rintro (found | ⟨atEnd, -⟩)
      · exact found
      · omega
  · have absent : items[index]? = none := List.getElem?_eq_none new
    rw [List.getElem?_append_right new, List.getElem?_singleton, absent]
    by_cases atEnd : index = items.length
    · simp [atEnd, eq_comm]
    · have beyond : index - items.length ≠ 0 := by omega
      simp [atEnd, beyond]

/-- What holds of every numbered entry, and of the new one at the end, holds of all. -/
theorem forall_getElem?_concat {holds : Nat → α → Prop} {items : List α} {last : α}
    (old : ∀ index item, items[index]? = some item → holds index item)
    (new : holds items.length last) :
    ∀ index item, (items ++ [last])[index]? = some item → holds index item := by
  intro index item found
  rcases getElem?_concat_eq_some.mp found with earlier | ⟨rfl, rfl⟩
  · exact old index item earlier
  · exact new

end Arisa.Std
