import Mathlib.Data.List.Forall2

/-!
# Batches of lookups

A batch call that answers for many keys at once stands for the calls with one
key each. The batch keeps what it finds in a map, in which a later value replaces
an earlier one of the same key.
-/

namespace Arisa.Std

variable {κ α β γ : Type}

/-- A batch returns exactly when every single call does, and then what they return, in the
order of the keys and once for each time a key is given. -/
structure Batches (single : κ → α → Prop) (keys : List κ) (batch : List α → Prop) : Prop where
  succeeds : (∃ values, batch values) ↔ ∀ key ∈ keys, ∃ value, single key value
  values : ∀ values, batch values → List.Forall₂ single keys values

/-- There are values for all keys exactly if there is one for each. -/
theorem exists_forall₂ {single : κ → α → Prop} {keys : List κ} :
    (∃ values, List.Forall₂ single keys values) ↔ ∀ key ∈ keys, ∃ value, single key value := by
  induction keys with
  | nil => simp
  | cons key rest ih =>
      rw [List.forall_mem_cons, ← ih]
      constructor
      · rintro ⟨values, each⟩
        obtain ⟨value, others, first, tail, -⟩ := List.forall₂_cons_left_iff.mp each
        exact ⟨⟨value, first⟩, others, tail⟩
      · rintro ⟨⟨value, first⟩, others, tail⟩
        exact ⟨value :: others, .cons first tail⟩

/-- A batch that returns the single values one by one agrees with the single calls. -/
theorem Batches.of_forall₂ {single : κ → α → Prop} {keys : List κ} {batch : List α → Prop}
    (same : ∀ values, batch values ↔ List.Forall₂ single keys values) :
    Batches single keys batch where
  succeeds := by
    simp only [same]
    exact exists_forall₂
  values values returned := (same values).mp returned

/-- Two relations of lists, member by member, one after the other. -/
theorem forall₂_comp {first : α → β → Prop} {second : β → γ → Prop} {left : List α}
    {right : List γ} :
    (∃ middle, List.Forall₂ first left middle ∧ List.Forall₂ second middle right) ↔
      List.Forall₂ (fun a c => ∃ b, first a b ∧ second b c) left right := by
  constructor
  · rintro ⟨middle, each, others⟩
    induction each generalizing right with
    | nil =>
        cases others
        exact .nil
    | cons here _ ih =>
        obtain ⟨c, rest, next, tail, rfl⟩ := List.forall₂_cons_left_iff.mp others
        exact .cons ⟨_, here, next⟩ (ih tail)
  · intro each
    induction each with
    | nil => exact ⟨[], .nil, .nil⟩
    | cons here _ ih =>
        obtain ⟨b, one, two⟩ := here
        obtain ⟨middle, heads, tails⟩ := ih
        exact ⟨b :: middle, .cons one heads, .cons two tails⟩

/-- One bound is enough for all members of a list when a larger bound always does. -/
theorem exists_bound_forall₂ {related : Nat → α → β → Prop}
    (mono : ∀ {bound more : Nat}, bound ≤ more → ∀ a b, related bound a b → related more a b)
    {left : List α} {right : List β} :
    (∃ bound, List.Forall₂ (related bound) left right) ↔
      List.Forall₂ (fun a b => ∃ bound, related bound a b) left right := by
  constructor
  · rintro ⟨bound, each⟩
    exact each.imp fun _ _ here => ⟨bound, here⟩
  · intro each
    induction each with
    | nil => exact ⟨0, .nil⟩
    | cons here _ ih =>
        obtain ⟨bound, first⟩ := here
        obtain ⟨other, rest⟩ := ih
        exact ⟨max bound other, .cons (mono (Nat.le_max_left ..) _ _ first)
          (rest.imp (mono (Nat.le_max_right ..)))⟩

/-- One bound is enough for a property of all members when a larger bound always does. -/
theorem exists_bound_forall {holds : Nat → α → Prop}
    (mono : ∀ {bound more : Nat}, bound ≤ more → ∀ a, holds bound a → holds more a)
    {items : List α} (each : ∀ item ∈ items, ∃ bound, holds bound item) :
    ∃ bound, ∀ item ∈ items, holds bound item := by
  induction items with
  | nil => exact ⟨0, nofun⟩
  | cons item rest ih =>
      obtain ⟨first, others⟩ := List.forall_mem_cons.mp each
      obtain ⟨bound, here⟩ := first
      obtain ⟨other, later⟩ := ih others
      refine ⟨max bound other, List.forall_mem_cons.mpr ⟨?_, fun next member => ?_⟩⟩
      · exact mono (Nat.le_max_left ..) item here
      · exact mono (Nat.le_max_right ..) next (later next member)

section Latest

variable [DecidableEq κ] (keyOf : α → κ)

/-- What a map holds under a key after all of `found` has been inserted. -/
def latest (found : List α) (key : κ) : Option α :=
  (found.filter fun value => keyOf value = key).getLast?

/-- The later list is looked at first. -/
theorem latest_append (before after : List α) (key : κ) :
    latest keyOf (before ++ after) key = (latest keyOf after key).or (latest keyOf before key) := by
  rw [latest, List.filter_append, List.getLast?_append]
  rfl

/-- The rows chosen by the keys of their values give all values of a key among these. -/
theorem latest_chosen {read : γ → Option α} {chosen : γ → Bool} {keys : List κ}
    (byKey : ∀ row value, read row = some value → (chosen row = true ↔ keyOf value ∈ keys))
    (rows : List γ) (key : κ) :
    latest keyOf ((rows.filter chosen).filterMap read) key =
      if key ∈ keys then latest keyOf (rows.filterMap read) key else none := by
  have values : ((rows.filter chosen).filterMap read).filter (fun value => keyOf value = key) =
      if key ∈ keys then (rows.filterMap read).filter (fun value => keyOf value = key)
      else [] := by
    induction rows with
    | nil => simp
    | cons row rest ih =>
        cases value : read row with
        | none => by_cases taken : chosen row <;> simp [taken, value, ih]
        | some found =>
            have among := byKey row found value
            by_cases taken : chosen row
            · have member := among.mp taken
              by_cases same : keyOf found = key
              · simp [taken, value, ih, same, same ▸ member]
              · simp [taken, value, ih, same]
            · have absent : keyOf found ∉ keys := fun member => taken (among.mpr member)
              by_cases same : keyOf found = key
              · simp [taken, ih, same ▸ absent]
              · simp [taken, value, ih, same]
  rw [latest, values]
  split
  · rfl
  · rfl

/-- The latest value of a key over chunks that each hold all values of their keys. -/
theorem latest_flatten {held : List κ → List α} {chunks : List (List κ)} {whole : List α}
    {key : κ} (each : ∀ chunk ∈ chunks, latest keyOf (held chunk) key =
      if key ∈ chunk then latest keyOf whole key else none) :
    latest keyOf (chunks.map held).flatten key =
      if key ∈ chunks.flatten then latest keyOf whole key else none := by
  induction chunks with
  | nil => rfl
  | cons chunk rest ih =>
      obtain ⟨first, others⟩ := List.forall_mem_cons.mp each
      rw [List.map_cons, List.flatten_cons, latest_append, ih others, first]
      simp only [List.flatten_cons, List.mem_append]
      by_cases later : key ∈ rest.flatten
      · have either : key ∈ chunk ∨ key ∈ rest.flatten := .inr later
        rw [if_pos later, if_pos either]
        by_cases here : key ∈ chunk
        · rw [if_pos here, Option.or_self]
        · rw [if_neg here, Option.or_none]
      · rw [if_neg later, Option.none_or]
        by_cases here : key ∈ chunk
        · rw [if_pos here, if_pos (Or.inl here)]
        · rw [if_neg here, if_neg (not_or.mpr ⟨here, later⟩)]

/-- A last value counts only for its own key. -/
theorem latest_concat (found : List α) (value : α) (key : κ) :
    latest keyOf (found ++ [value]) key =
      if keyOf value = key then some value else latest keyOf found key := by
  rw [latest_append]
  by_cases same : keyOf value = key
  · simp [latest, same]
  · simp [latest, same]

end Latest

end Arisa.Std
