import Mathlib.Data.List.Induction

/-!
# Labelled runs

A system is a set of initial states and a labelled step relation. A run keeps
the labels of its steps in order, so that a property may speak about what
happened and not only about the state reached. `Runs.invariant` is the only
induction over runs that clients need.
-/

namespace Arisa.Semantics

universe u v

structure System (State : Type u) (Label : Type v) where
  Initial : State → Prop
  Step : State → Label → State → Prop

namespace System

variable {State : Type u} {Label : Type v} {system : System State Label}

/-- A finite run from an initial state, with its trace. -/
inductive Runs (system : System State Label) : List Label → State → Prop where
  | initial {state} (valid : system.Initial state) : Runs system [] state
  | step {trace state label next} (prior : Runs system trace state)
      (transition : system.Step state label next) : Runs system (trace ++ [label]) next

/-- What holds initially and is preserved by every step holds of every run. -/
theorem Runs.invariant {holds : List Label → State → Prop}
    (initial : ∀ state, system.Initial state → holds [] state)
    (preserved : ∀ trace state label next, holds trace state → system.Step state label next →
      holds (trace ++ [label]) next)
    {trace : List Label} {state : State} (run : system.Runs trace state) : holds trace state := by
  induction run with
  | initial valid => exact initial _ valid
  | step _ transition ih => exact preserved _ _ _ _ ih transition

/-- Every label of a trace was taken from a state reached by a shorter run. -/
theorem Runs.of_mem {trace : List Label} {state : State} (run : system.Runs trace state)
    {label : Label} (member : label ∈ trace) :
    ∃ before earlier next, system.Runs before earlier ∧ system.Step earlier label next ∧
      before ++ [label] <+: trace := by
  induction run with
  | initial => cases member
  | @step trace state last next prior transition ih =>
      rcases List.mem_append.mp member with earlier | final
      · obtain ⟨before, reached, after, runs, taken, within⟩ := ih earlier
        exact ⟨before, reached, after, runs, taken, within.trans (List.prefix_append _ _)⟩
      · rw [List.mem_singleton] at final
        subst final
        exact ⟨trace, state, next, prior, transition, List.prefix_rfl⟩

/-- The last step of a run, and the run before it. -/
theorem Runs.of_concat {trace : List Label} {label : Label} {state : State}
    (run : system.Runs (trace ++ [label]) state) :
    ∃ earlier, system.Runs trace earlier ∧ system.Step earlier label state := by
  generalize whole : trace ++ [label] = taken at run
  cases run with
  | initial => simp at whole
  | step prior transition =>
      obtain ⟨rfl, same⟩ := List.append_inj' whole rfl
      rw [List.singleton_inj] at same
      subst same
      exact ⟨_, prior, transition⟩

/-- Steps taken from a given state on, with their trace. -/
inductive Steps (system : System State Label) (start : State) : List Label → State → Prop where
  | refl : Steps system start [] start
  | step {trace state label next} (prior : Steps system start trace state)
      (transition : system.Step state label next) : Steps system start (trace ++ [label]) next

/-- A run passes through a state after each part of its trace. -/
theorem Runs.split {before after : List Label} {state : State}
    (run : system.Runs (before ++ after) state) :
    ∃ middle, system.Runs before middle ∧ system.Steps middle after state := by
  induction after using List.reverseRecOn generalizing state with
  | nil =>
      rw [List.append_nil] at run
      exact ⟨state, run, .refl⟩
  | append_singleton after label ih =>
      rw [← List.append_assoc] at run
      obtain ⟨earlier, prior, transition⟩ := run.of_concat
      obtain ⟨middle, reached, steps⟩ := ih prior
      exact ⟨middle, reached, steps.step transition⟩

/-- What holds of a state and is kept by the steps a trace may take holds after them. -/
theorem Steps.invariant (allowed : Label → Prop) (holds : State → Prop) {start : State}
    (initial : holds start)
    (preserved : ∀ state label next, allowed label → holds state → system.Step state label next →
      holds next)
    {trace : List Label} {state : State} (steps : system.Steps start trace state)
    (within : ∀ label, label ∈ trace → allowed label) : holds state := by
  induction steps with
  | refl => exact initial
  | step _ transition ih =>
      refine preserved _ _ _ (within _ (by simp)) (ih fun label member => ?_) transition
      exact within label (List.mem_append_left _ member)

/-- One step is a sequence of steps. -/
theorem Steps.one {state next : State} {label : Label} (taken : system.Step state label next) :
    system.Steps state [label] next :=
  Steps.refl.step taken

/-- What holds at the start of steps with their trace and is preserved holds after them. -/
theorem Steps.trace_invariant {start : State} {holds : List Label → State → Prop}
    (initial : holds [] start)
    (preserved : ∀ trace state label next, holds trace state → system.Step state label next →
      holds (trace ++ [label]) next)
    {trace : List Label} {state : State} (steps : system.Steps start trace state) :
    holds trace state := by
  induction steps with
  | refl => exact initial
  | step _ taken ih => exact preserved _ _ _ _ ih taken

/-- Steps taken after a run continue it. -/
theorem Runs.append {before after : List Label} {middle state : State}
    (run : system.Runs before middle) (steps : system.Steps middle after state) :
    system.Runs (before ++ after) state := by
  induction steps with
  | refl => rwa [List.append_nil]
  | step _ taken ih =>
      rw [← List.append_assoc]
      exact ih.step taken

section Projection

variable {Part : Type u} {PartLabel : Type v} {part : System Part PartLabel}

/-- A system runs as one of its parts does, seen through a view of the states: each of its steps
is any number of steps of the part. -/
theorem Runs.project (view : State → Part) (project : Label → List PartLabel)
    (initial : ∀ state, system.Initial state → part.Initial (view state))
    (simulated : ∀ state label next, system.Step state label next →
      part.Steps (view state) (project label) (view next))
    {trace : List Label} {state : State} (run : system.Runs trace state) :
    part.Runs (trace.flatMap project) (view state) := by
  induction run with
  | initial valid => exact .initial (initial _ valid)
  | step _ taken ih =>
      rw [List.flatMap_append, List.flatMap_singleton]
      exact ih.append (simulated _ _ _ taken)

/-- The steps of a part are steps of the system in which the part has its place. -/
theorem Steps.embed (place : Part → State) (rename : PartLabel → Label)
    (taken : ∀ state label next, part.Step state label next →
      system.Step (place state) (rename label) (place next))
    {start : Part} {trace : List PartLabel} {state : Part}
    (steps : part.Steps start trace state) :
    system.Steps (place start) (trace.map rename) (place state) := by
  induction steps with
  | refl => exact .refl
  | step _ transition ih =>
      rw [List.map_append]
      exact ih.step (taken _ _ _ transition)

end Projection

end System
end Arisa.Semantics
