import Mathlib.Control.Lawful

/-!
# Calls that may be refused

A computation makes calls to an environment that may refuse any of them: the
oracle `refuses` answers them by number. Calls that matter to an observer leave
an entry in the journal. `Emits` is a postcondition on the outcome and on the
entries a computation adds, whatever the environment refuses.
-/

namespace Arisa.Semantics.Faults

structure Env (Failure Entry : Type) where
  /-- The failure of the call with this number; `none` is a call that returns. -/
  refuses : Nat → Option Failure
  made : Nat
  journal : List Entry

abbrev Calling (Failure Entry : Type) := ExceptT Failure (StateM (Env Failure Entry))

variable {Failure Entry α β : Type}

/-- A call that is recorded, together with whether it returned. -/
def record (entry : Bool → Option Entry) : Calling Failure Entry Unit := fun env =>
  let answer := env.refuses env.made
  let after : Env Failure Entry :=
    { env with
      made := env.made + 1
      journal := env.journal ++ (entry answer.isNone).toList }
  match answer with
  | some failure => (.error failure, after)
  | none => (.ok (), after)

/-- A call that is not recorded. -/
def call : Calling Failure Entry Unit :=
  record fun _ => none

/-- Calls in a row. -/
def calls : Nat → Calling Failure Entry Unit
  | 0 => pure ()
  | count + 1 => do
      call
      calls count

/-- The outcome of a computation as a value: `?` not applied. -/
def attempt (computation : Calling Failure Entry α) : Calling Failure Entry (Except Failure α) :=
  ExceptT.lift computation.run

/-- No call at all is no step. -/
@[simp] theorem calls_zero_bind (next : Unit → Calling Failure Entry α) :
    (calls 0 >>= next) = next () := by
  simp [calls]

/-- A call is one of a number of calls. -/
theorem call_bind (next : Unit → Calling Failure Entry α) :
    (call >>= next) = (calls 1 >>= next) := by
  simp [calls]

/-- Numbers of calls in a row add up. -/
@[simp] theorem calls_bind_calls (first second : Nat) (next : Unit → Calling Failure Entry α) :
    (calls first >>= fun _ => calls second >>= next) = (calls (first + second) >>= next) := by
  induction first with
  | zero => simp
  | succ first ih => rw [Nat.add_right_comm, calls, calls, bind_assoc, bind_assoc, ih]

/-- A sequence stops at the first failure, with what happened until then. -/
theorem bind_run (computation : Calling Failure Entry α) (next : α → Calling Failure Entry β)
    (env : Env Failure Entry) :
    (computation >>= next) env = match computation env with
      | (.error failure, later) => (.error failure, later)
      | (.ok value, later) => next value later := by
  change (match computation env with
    | (outcome, later) => ExceptT.bindCont next outcome later) = _
  rcases computation env with ⟨outcome, later⟩
  cases outcome with
  | error failure => rfl
  | ok value => rfl

/-- The outcome `post` of a computation and the entries it adds. An error is one
that the environment answered. -/
structure Emits (computation : Calling Failure Entry α)
    (post : Except Failure α → List Entry → Prop) (env : Env Failure Entry) : Prop where
  added : ∃ entries, (computation env).2.journal = env.journal ++ entries ∧
    post (computation env).1 entries
  blamed : ∀ failure, (computation env).1 = .error failure →
    ∃ number, env.made ≤ number ∧ number < (computation env).2.made ∧
      env.refuses number = some failure
  oracle : (computation env).2.refuses = env.refuses
  counted : env.made ≤ (computation env).2.made

variable {computation : Calling Failure Entry α} {post : Except Failure α → List Entry → Prop}

/-- What is guaranteed of a computation may be weakened. -/
theorem Emits.mono {env : Env Failure Entry} {weaker : Except Failure α → List Entry → Prop}
    (emits : Emits computation post env)
    (implied : ∀ outcome entries, post outcome entries → weaker outcome entries) :
    Emits computation weaker env := by
  obtain ⟨entries, journal, holds⟩ := emits.added
  exact ⟨⟨entries, journal, implied _ _ holds⟩, emits.blamed, emits.oracle, emits.counted⟩

/-- The rule for a value: it fails nowhere and records nothing. -/
theorem emits_pure {value : α} (holds : post (.ok value) []) (env : Env Failure Entry) :
    Emits (pure value) post env where
  added := ⟨[], (List.append_nil _).symm, holds⟩
  blamed _ same := by cases same
  oracle := rfl
  counted := Nat.le_refl _

/-- The rule for a recorded call: the entry of one that returned, or of one that was refused. -/
theorem emits_record {entry : Bool → Option Entry} {post : Except Failure Unit → List Entry → Prop}
    (returned : post (.ok ()) (entry true).toList)
    (refused : ∀ failure, post (.error failure) (entry false).toList)
    (env : Env Failure Entry) : Emits (record entry) post env := by
  cases answer : env.refuses env.made with
  | none =>
      have outcome : record entry env = (.ok (),
          { env with made := env.made + 1, journal := env.journal ++ (entry true).toList }) := by
        simp [record, answer]
      refine ⟨⟨(entry true).toList, ?_, ?_⟩, fun failure same => ?_, ?_, ?_⟩ <;> rw [outcome]
      · exact returned
      · rw [outcome] at same
        cases same
      · exact Nat.le_succ _
  | some failure =>
      have outcome : record entry env = (.error failure,
          { env with made := env.made + 1, journal := env.journal ++ (entry false).toList }) := by
        simp [record, answer]
      refine ⟨⟨(entry false).toList, ?_, ?_⟩, fun other same => ?_, ?_, ?_⟩ <;> rw [outcome]
      · exact refused failure
      · rw [outcome] at same
        cases same
        exact ⟨env.made, Nat.le_refl _, Nat.lt_succ_self _, answer⟩
      · exact Nat.le_succ _

/-- What a computation emits comes before what the rest emits; an error ends it. -/
theorem Emits.bind {next : α → Calling Failure Entry β}
    {middle : Except Failure α → List Entry → Prop} {post : Except Failure β → List Entry → Prop}
    {env : Env Failure Entry} (first : Emits computation middle env)
    (second : ∀ value entries, middle (.ok value) entries → ∀ later,
      Emits (next value) (fun outcome more => post outcome (entries ++ more)) later)
    (stops : ∀ failure entries, middle (.error failure) entries → post (.error failure) entries) :
    Emits (computation >>= next) post env := by
  obtain ⟨entries, journal, holds⟩ := first.added
  obtain ⟨outcome, after⟩ : ∃ outcome, computation env = outcome := ⟨_, rfl⟩
  obtain ⟨result, later⟩ := outcome
  cases result with
  | error failure =>
      have whole : (computation >>= next) env = (.error failure, later) := by
        rw [bind_run, after]
      have blamed := first.blamed failure
      have oracle := first.oracle
      have counted := first.counted
      rw [after] at journal holds blamed oracle counted
      refine ⟨⟨entries, ?_, ?_⟩, fun other same => ?_, ?_, ?_⟩ <;> rw [whole]
      · exact journal
      · exact stops failure entries holds
      · rw [whole] at same
        cases same
        exact blamed rfl
      · exact oracle
      · exact counted
  | ok value =>
      have whole : (computation >>= next) env = next value later := by
        rw [bind_run, after]
      have oracle := first.oracle
      have counted := first.counted
      rw [after] at journal holds oracle counted
      have rest := second value entries holds later
      obtain ⟨more, appended, met⟩ := rest.added
      have kept := rest.oracle
      have grown := rest.counted
      refine ⟨⟨entries ++ more, ?_, ?_⟩, fun failure same => ?_, ?_, ?_⟩ <;> rw [whole]
      · rw [appended, journal, List.append_assoc]
      · exact met
      · rw [whole] at same
        obtain ⟨number, from_, upto, refused⟩ := rest.blamed failure same
        exact ⟨number, Nat.le_trans counted from_, upto, by rw [← oracle, refused]⟩
      · rw [kept, oracle]
      · exact Nat.le_trans counted grown

/-- Calls that are not recorded emit nothing, and may end a computation. -/
theorem Emits.after_calls {next : Unit → Calling Failure Entry α} (count : Nat)
    (rest : ∀ env, Emits (next ()) post env) (stops : ∀ failure, post (.error failure) [])
    (env : Env Failure Entry) : Emits (calls count >>= next) post env := by
  induction count generalizing env with
  | zero =>
      rw [calls_zero_bind]
      exact rest env
  | succ count ih =>
      have silent : Emits call (fun _ entries => entries = []) env :=
        emits_record rfl (fun _ => rfl) env
      rw [calls, bind_assoc]
      apply silent.bind
      · rintro ⟨⟩ _ rfl later
        exact ih later
      · rintro failure _ rfl
        exact stops failure

/-- An attempt always returns, with the outcome of the computation. -/
theorem Emits.attempt {env : Env Failure Entry} (emits : Emits computation post env) :
    Emits (attempt computation)
      (fun outcome entries => ∃ inner, outcome = .ok inner ∧ post inner entries) env := by
  obtain ⟨entries, journal, holds⟩ := emits.added
  have whole : Faults.attempt computation env = (.ok (computation env).1, (computation env).2) :=
    rfl
  refine ⟨⟨entries, ?_, ?_⟩, fun failure same => ?_, ?_, ?_⟩
  · rw [whole]
    exact journal
  · rw [whole]
    exact ⟨_, rfl, holds⟩
  · rw [whole] at same
    cases same
  · rw [whole]
    exact emits.oracle
  · rw [whole]
    exact emits.counted

end Arisa.Semantics.Faults
