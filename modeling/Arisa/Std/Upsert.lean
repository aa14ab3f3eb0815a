import Mathlib.Data.List.Count

/-!
# Updating an entry or adding it

The first entry with a key is updated; where there is none a new entry is added at
the end. Entries with other keys stay as they are.
-/

namespace Arisa.Std

variable {α κ : Type}

inductive Upserted (keyOf : α → κ) (key : κ) (update : α → α) (entry : α) :
    List α → List α → Prop where
  | updated {before after : List α} {item : α} (earlier : ∀ other ∈ before, keyOf other ≠ key)
      (found : keyOf item = key) :
      Upserted keyOf key update entry (before ++ item :: after) (before ++ update item :: after)
  | added {items : List α} (absent : ∀ item ∈ items, keyOf item ≠ key) :
      Upserted keyOf key update entry items (items ++ [entry])

variable {keyOf : α → κ} {key : κ} {update : α → α} {entry : α} {items result : List α}

/-- What holds of the old entries, of an updated one and of the new one holds of all. -/
theorem Upserted.forall_mem {holds : α → Prop}
    (upserted : Upserted keyOf key update entry items result) (old : ∀ item ∈ items, holds item)
    (updated : ∀ item ∈ items, keyOf item = key → holds (update item)) (new : holds entry) :
    ∀ item ∈ result, holds item := by
  cases upserted with
  | @updated before after item earlier found =>
      obtain ⟨first, _, last⟩ := List.forall_mem_append.mp old |>.imp_right List.forall_mem_cons.mp
      refine List.forall_mem_append.mpr ⟨first, List.forall_mem_cons.mpr ⟨?_, last⟩⟩
      exact updated item (by simp) found
  | added absent =>
      exact List.forall_mem_append.mpr ⟨old, List.forall_mem_singleton.mpr new⟩

/-- There is an entry with the key afterwards, an updated one or the new one. -/
theorem Upserted.exists_entry (upserted : Upserted keyOf key update entry items result) :
    ∃ item ∈ result, item = entry ∨ ∃ old ∈ items, keyOf old = key ∧ item = update old := by
  cases upserted with
  | @updated before after item earlier found =>
      exact ⟨update item, by simp, .inr ⟨item, by simp, found, rfl⟩⟩
  | added absent => exact ⟨entry, by simp, .inl rfl⟩

/-- The entries with other keys are the same, in the same order. -/
theorem Upserted.others [DecidableEq κ] (upserted : Upserted keyOf key update entry items result)
    (keeps : ∀ item, keyOf (update item) = keyOf item) (own : keyOf entry = key) :
    result.filter (fun item => keyOf item ≠ key) = items.filter fun item => keyOf item ≠ key := by
  cases upserted with
  | updated earlier found => simp [List.filter_append, keeps, found]
  | added absent => simp [List.filter_append, own]

/-- No key occurs more often than before, but the given one at least once. -/
theorem Upserted.countP_le [DecidableEq κ] (upserted : Upserted keyOf key update entry items result)
    (keeps : ∀ item, keyOf (update item) = keyOf item) (own : keyOf entry = key) (other : κ) :
    result.countP (fun item => keyOf item = other) ≤
      max (items.countP fun item => keyOf item = other) (if other = key then 1 else 0) := by
  cases upserted with
  | updated earlier found =>
      simp only [List.countP_append, List.countP_cons, keeps]
      exact Nat.le_max_left ..
  | added absent =>
      by_cases same : other = key
      · subst same
        have none : items.countP (fun item => keyOf item = other) = 0 :=
          List.countP_eq_zero.mpr fun item member => by simpa using absent item member
        rw [List.countP_append, none]
        simp [own]
      · rw [List.countP_append]
        simp [own, same, Ne.symm same]

end Arisa.Std
