import Mathlib.Data.List.Basic

/-!
# Values with noise between them

A list whose items either write a value or are noise. A reader that gives the
value of the former and nothing for the latter recovers the values in order.
-/

namespace Arisa.Std

variable {α β : Type}

/-- The items write the values, in order; the items in between are noise. -/
inductive Interspersed (Writes : α → β → Prop) (Noise : α → Prop) : List α → List β → Prop where
  | nil : Interspersed Writes Noise [] []
  | value {item value items values} (written : Writes item value)
      (rest : Interspersed Writes Noise items values) :
      Interspersed Writes Noise (item :: items) (value :: values)
  | noise {item items values} (noise : Noise item)
      (rest : Interspersed Writes Noise items values) :
      Interspersed Writes Noise (item :: items) values

variable {Writes : α → β → Prop} {Noise : α → Prop} {read : α → Option β}

/-- What is written is read back, whatever stands in between. -/
theorem Interspersed.filterMap_eq (reads : ∀ item value, Writes item value →
      read item = some value) (drops : ∀ item, Noise item → read item = none)
    {items : List α} {values : List β} (interspersed : Interspersed Writes Noise items values) :
    items.filterMap read = values := by
  induction interspersed with
  | nil => rfl
  | value written _ ih => rw [List.filterMap_cons_some (reads _ _ written), ih]
  | noise noise _ ih => rw [List.filterMap_cons_none (drops _ noise), ih]

/-- Every list has the form that its reader sees in it. -/
theorem interspersed_filterMap (reads : ∀ item value, read item = some value →
      Writes item value) (drops : ∀ item, read item = none → Noise item) (items : List α) :
    Interspersed Writes Noise items (items.filterMap read) := by
  induction items with
  | nil => exact .nil
  | cons item rest ih =>
      cases found : read item with
      | none =>
          rw [List.filterMap_cons_none found]
          exact .noise (drops item found) ih
      | some value =>
          rw [List.filterMap_cons_some found]
          exact .value (reads item value found) ih

/-- What holds of values and of noise holds of every item. -/
theorem Interspersed.forall_mem {holds : α → Prop}
    (written : ∀ item value, Writes item value → holds item)
    (noise : ∀ item, Noise item → holds item) {items : List α} {values : List β}
    (interspersed : Interspersed Writes Noise items values) : ∀ item ∈ items, holds item := by
  induction interspersed with
  | nil => exact List.forall_mem_nil _
  | value head _ ih => exact List.forall_mem_cons.mpr ⟨written _ _ head, ih⟩
  | noise head _ ih => exact List.forall_mem_cons.mpr ⟨noise _ head, ih⟩

end Arisa.Std
