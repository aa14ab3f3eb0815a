import Mathlib.Data.List.Forall2

/-!
# Loops whose steps may fail

`List.mapM` in `Except`: it succeeds exactly when every step does, and then with
the values of the steps.
-/

namespace Arisa.Std

variable {ε α β : Type}

/-- A computation that returns a value. -/
def Succeeds (result : Except ε α) : Prop :=
  ∃ value, result = .ok value

/-- A value is a success. -/
@[simp] theorem succeeds_ok (value : α) : Succeeds (.ok value : Except ε α) :=
  ⟨value, rfl⟩

/-- An error is no success. -/
@[simp] theorem not_succeeds_error (error : ε) : ¬ Succeeds (.error error : Except ε α) := by
  rintro ⟨value, same⟩
  cases same

/-- Rewriting errors does not change whether a result succeeds. -/
@[simp] theorem succeeds_mapError {δ : Type} (convert : ε → δ) (result : Except ε α) :
    Succeeds (result.mapError convert) ↔ Succeeds result := by
  cases result with
  | error error => simp [Except.mapError]
  | ok value => simp [Except.mapError]

/-- Rewriting errors neither makes values nor loses any. -/
theorem mapError_eq_ok {δ : Type} {convert : ε → δ} {result : Except ε α} {value : α} :
    result.mapError convert = .ok value ↔ result = .ok value := by
  cases result with
  | error error => simp [Except.mapError]
  | ok other => simp [Except.mapError]

/-- Forgetting errors keeps the values. -/
theorem toOption_eq_some {result : Except ε α} {value : α} :
    result.toOption = some value ↔ result = .ok value := by
  cases result with
  | error error => simp [Except.toOption]
  | ok other => simp [Except.toOption]

/-- A sequence returns a value exactly when both parts do. -/
theorem bind_eq_ok {first : Except ε α} {second : α → Except ε β} {value : β} :
    (first >>= second) = .ok value ↔ ∃ middle, first = .ok middle ∧ second middle = .ok value := by
  cases first with
  | error error => simp [bind, Except.bind]
  | ok middle => simp [bind, Except.bind]

/-- A sequence fails when its first part does, or when its second part does with a value. -/
theorem bind_eq_error {first : Except ε α} {second : α → Except ε β} {error : ε} :
    (first >>= second) = .error error ↔
      first = .error error ∨ ∃ middle, first = .ok middle ∧ second middle = .error error := by
  cases first with
  | error other => simp [bind, Except.bind]
  | ok middle => simp [bind, Except.bind]

/-- An error behind `mapError` is the rewriting of one before it. -/
theorem mapError_eq_error {δ : Type} {convert : ε → δ} {result : Except ε α} {error : δ} :
    result.mapError convert = .error error ↔
      ∃ cause, result = .error cause ∧ error = convert cause := by
  cases result with
  | error cause => simp [Except.mapError, eq_comm]
  | ok value => simp [Except.mapError]

/-- A value behind a map comes from one before it. -/
theorem map_eq_ok {convert : α → β} {result : Except ε α} {value : β} :
    (convert <$> result) = .ok value ↔ ∃ middle, result = .ok middle ∧ convert middle = value := by
  cases result with
  | error error => simp [Functor.map, Except.map]
  | ok middle => simp [Functor.map, Except.map]

/-- A traversal returns exactly if each of its steps does, and returns what they do. -/
theorem mapM_eq_ok_iff {step : α → Except ε β} {items : List α} {values : List β} :
    items.mapM step = .ok values ↔
      List.Forall₂ (fun item value => step item = .ok value) items values := by
  induction items generalizing values with
  | nil =>
      rw [List.mapM_nil, List.forall₂_nil_left_iff]
      simp [pure, Except.pure, eq_comm]
  | cons item rest ih =>
      rw [List.mapM_cons, List.forall₂_cons_left_iff]
      cases first : step item with
      | error error =>
          simp [bind, Except.bind]
      | ok value =>
          cases others : rest.mapM step with
          | error error =>
              constructor
              · intro same
                simp [bind, Except.bind] at same
              · rintro ⟨_, tail, _, each, rfl⟩
                rw [ih.mpr each] at others
                cases others
          | ok tail =>
              constructor
              · intro same
                simp only [bind, Except.bind, pure, Except.pure, Except.ok.injEq] at same
                exact ⟨value, tail, rfl, ih.mp others, same.symm⟩
              · rintro ⟨_, found, same, each, rfl⟩
                cases same
                have unique := others.symm.trans (ih.mpr each)
                cases unique
                rfl

/-- Only the items of the list matter to a traversal. -/
theorem mapM_congr {step other : α → Except ε β} {items : List α}
    (same : ∀ item ∈ items, step item = other item) : items.mapM step = items.mapM other := by
  induction items with
  | nil => rfl
  | cons item rest ih =>
      obtain ⟨first, others⟩ := List.forall_mem_cons.mp same
      rw [List.mapM_cons, List.mapM_cons, first, ih others]

/-- Every item has its value. -/
theorem exists_value_of_mem {step : α → Except ε β} {items : List α} {values : List β}
    (same : items.mapM step = .ok values) {item : α} (member : item ∈ items) :
    ∃ value ∈ values, step item = .ok value := by
  have each := mapM_eq_ok_iff.mp same
  obtain ⟨index, bound, rfl⟩ := List.getElem_of_mem member
  have within := each.length_eq ▸ bound
  exact ⟨_, List.getElem_mem within, each.get bound within⟩

/-- Every value comes from an item. -/
theorem exists_item_of_mem {step : α → Except ε β} {items : List α} {values : List β}
    (same : items.mapM step = .ok values) {value : β} (member : value ∈ values) :
    ∃ item ∈ items, step item = .ok value := by
  have each := mapM_eq_ok_iff.mp same
  obtain ⟨index, bound, rfl⟩ := List.getElem_of_mem member
  have within := each.length_eq.symm ▸ bound
  exact ⟨_, List.getElem_mem within, each.get within bound⟩

/-- A loop succeeds exactly when every step does. -/
theorem succeeds_mapM {step : α → Except ε β} {items : List α} :
    Succeeds (items.mapM step) ↔ ∀ item ∈ items, Succeeds (step item) := by
  constructor
  · rintro ⟨values, same⟩ item found
    obtain ⟨value, -, returned⟩ := exists_value_of_mem same found
    exact ⟨value, returned⟩
  · intro each
    induction items with
    | nil => exact succeeds_ok []
    | cons item rest ih =>
        obtain ⟨value, first⟩ := each item (List.mem_cons_self ..)
        obtain ⟨values, others⟩ := ih fun other found => each other (List.mem_cons_of_mem _ found)
        refine ⟨value :: values, ?_⟩
        rw [List.mapM_cons, first, others]
        rfl

/-- A loop whose first step succeeds fails where the rest does. -/
theorem mapM_cons_eq_error {step : α → Except ε β} {first : α} {rest : List α} {value : β}
    {error : ε} (head : step first = .ok value) :
    (first :: rest).mapM step = .error error ↔ rest.mapM step = .error error := by
  rw [List.mapM_cons, head]
  cases others : rest.mapM step with
  | error cause => simp [bind, Except.bind]
  | ok values => simp [bind, Except.bind, pure, Except.pure]

/-- A loop fails with the error of the first step that does. -/
theorem mapM_eq_error_iff {step : α → Except ε β} {items : List α} {error : ε} :
    items.mapM step = .error error ↔
      ∃ before item after, items = before ++ item :: after ∧
        (∀ earlier ∈ before, Succeeds (step earlier)) ∧ step item = .error error := by
  induction items with
  | nil =>
      rw [List.mapM_nil]
      simp [pure, Except.pure]
  | cons first rest ih =>
      cases head : step first with
      | error cause =>
          rw [List.mapM_cons, head]
          constructor
          · intro failed
            cases failed
            exact ⟨[], first, rest, rfl, by simp, head⟩
          · rintro ⟨_ | ⟨earlier, before⟩, item, after, same, succeed, failed⟩
            · cases same
              rw [head] at failed
              cases failed
              rfl
            · cases same
              obtain ⟨value, returned⟩ := succeed first (List.mem_cons_self ..)
              rw [head] at returned
              cases returned
      | ok value =>
          refine (mapM_cons_eq_error head).trans (ih.trans ?_)
          constructor
          · rintro ⟨before, item, after, rfl, succeed, failed⟩
            exact ⟨first :: before, item, after, rfl,
              List.forall_mem_cons.mpr ⟨⟨value, head⟩, succeed⟩, failed⟩
          · rintro ⟨_ | ⟨earlier, before⟩, item, after, same, succeed, failed⟩
            · cases same
              rw [head] at failed
              cases failed
            · cases same
              exact ⟨before, item, after, rfl, (List.forall_mem_cons.mp succeed).2, failed⟩

/-- A map whose function succeeds on every element succeeds with the plain map. -/
theorem mapM_eq_ok {step : α → Except ε β} (value : α → β) (items : List α)
    (succeeds : ∀ item ∈ items, step item = .ok (value item)) :
    items.mapM step = .ok (items.map value) := by
  induction items with
  | nil => rfl
  | cons item rest ih =>
      obtain ⟨head, tail⟩ := List.forall_mem_cons.mp succeeds
      rw [List.mapM_cons, head, ih tail]
      rfl

end Arisa.Std
