import Arisa.Semantics.Execution
import Mathlib.Logic.Function.Basic

/-!
# Cooperative tasks

Any number of tasks share one state. A turn takes one task from a suspension
point to the next and may change the shared state; the others stand still
meanwhile. `Runs.tasks_invariant` is the rule for invariants that say something
of the shared state, of each task, and of each pair of tasks.
-/

namespace Arisa.Semantics

universe u v w

/-- A shared state and the task in every slot. -/
structure Tasks (Shared : Type u) (Local : Type v) where
  shared : Shared
  task : Nat → Local

variable {Shared : Type u} {Local : Type v} {Label : Type w}

namespace Tasks

/-- The slot `index` has taken a turn. -/
def advance (tasks : Tasks Shared Local) (index : Nat) (shared : Shared) (next : Local) :
    Tasks Shared Local :=
  ⟨shared, Function.update tasks.task index next⟩

/-- A turn leaves the shared state it has made. -/
@[simp] theorem advance_shared (tasks : Tasks Shared Local) (index : Nat) (shared : Shared)
    (next : Local) : (tasks.advance index shared next).shared = shared := rfl

/-- A turn leaves its own task where it has ended. -/
@[simp] theorem advance_task_self (tasks : Tasks Shared Local) (index : Nat) (shared : Shared)
    (next : Local) : (tasks.advance index shared next).task index = next :=
  Function.update_self ..

/-- A turn moves no other task. -/
theorem advance_task_of_ne {index other : Nat} (different : other ≠ index)
    (tasks : Tasks Shared Local) (shared : Shared) (next : Local) :
    (tasks.advance index shared next).task other = tasks.task other :=
  Function.update_of_ne different ..

/-- The system of tasks in which every slot starts as `idle`. -/
def system (Initial : Shared → Prop) (idle : Local)
    (Turn : Shared → Local → Label → Shared → Local → Prop) :
    System (Tasks Shared Local) (Nat × Label) where
  Initial tasks := Initial tasks.shared ∧ ∀ index, tasks.task index = idle
  Step tasks label next :=
    ∃ shared local', Turn tasks.shared (tasks.task label.1) label.2 shared local' ∧
      next = tasks.advance label.1 shared local'

/-- The run of no turns. -/
theorem start {Initial : Shared → Prop} {idle : Local}
    {Turn : Shared → Local → Label → Shared → Local → Prop} {shared : Shared}
    (valid : Initial shared) : (system Initial idle Turn).Runs [] ⟨shared, fun _ => idle⟩ :=
  .initial ⟨valid, fun _ => rfl⟩

/-- A property of the shared state, of every task in it, and of every two tasks. -/
structure Holds (Fits : Shared → Prop) (Own : Shared → Local → Prop)
    (Apart : Local → Local → Prop) (tasks : Tasks Shared Local) : Prop where
  shared : Fits tasks.shared
  own : ∀ index, Own tasks.shared (tasks.task index)
  apart : ∀ index other, index ≠ other → Apart (tasks.task index) (tasks.task other)

variable {Fits : Shared → Prop} {Own : Shared → Local → Prop} {Apart : Local → Local → Prop}

/-- An account may be weakened part by part. -/
theorem Holds.mono {Fits' : Shared → Prop} {Own' : Shared → Local → Prop}
    {tasks : Tasks Shared Local} (holds : tasks.Holds Fits Own Apart)
    (fits : Fits tasks.shared → Fits' tasks.shared)
    (own : ∀ task, Own tasks.shared task → Own' tasks.shared task) :
    tasks.Holds Fits' Own' Apart where
  shared := fits holds.shared
  own index := own _ (holds.own index)
  apart := holds.apart

/-- A turn keeps the property if the task's own part does and no other task is disturbed. -/
theorem Holds.advance {tasks : Tasks Shared Local} (holds : tasks.Holds Fits Own Apart)
    (symmetric : ∀ first second, Apart first second → Apart second first)
    {index : Nat} {shared : Shared} {next : Local}
    (fits : Fits shared) (own : Own shared next)
    (undisturbed : ∀ other, Own tasks.shared other → Apart (tasks.task index) other →
      Own shared other ∧ Apart next other) :
    (tasks.advance index shared next).Holds Fits Own Apart where
  shared := fits
  own := by
    intro slot
    by_cases same : slot = index
    · rw [same, advance_task_self]
      exact own
    · rw [advance_task_of_ne same]
      exact (undisturbed _ (holds.own slot) (holds.apart index slot (Ne.symm same))).1
  apart := by
    intro first second different
    have beside : ∀ slot, slot ≠ index → Apart next (tasks.task slot) := fun slot other =>
      (undisturbed _ (holds.own slot) (holds.apart index slot (Ne.symm other))).2
    by_cases isFirst : first = index
    · subst isFirst
      rw [advance_task_self, advance_task_of_ne (Ne.symm different)]
      exact beside second (Ne.symm different)
    · by_cases isSecond : second = index
      · subst isSecond
        rw [advance_task_self, advance_task_of_ne different]
        exact symmetric _ _ (beside first different)
      · rw [advance_task_of_ne isFirst, advance_task_of_ne isSecond]
        exact holds.apart first second different

/-- The rule for runs: what holds of idle slots and is kept by every turn holds throughout. -/
theorem invariant {Initial : Shared → Prop} {idle : Local}
    {Turn : Shared → Local → Label → Shared → Local → Prop}
    (symmetric : ∀ first second, Apart first second → Apart second first)
    (initial : ∀ shared, Initial shared → Fits shared ∧ Own shared idle)
    (idle_apart : Apart idle idle)
    (turn : ∀ shared current label shared' next, Fits shared → Own shared current →
      Turn shared current label shared' next →
      Fits shared' ∧ Own shared' next ∧
        ∀ other, Own shared other → Apart current other → Own shared' other ∧ Apart next other)
    {trace : List (Nat × Label)} {tasks : Tasks Shared Local}
    (run : (system Initial idle Turn).Runs trace tasks) : tasks.Holds Fits Own Apart := by
  refine @System.Runs.invariant _ _ _ (fun _ tasks => tasks.Holds Fits Own Apart) ?_ ?_ _ _ run
  · intro tasks start
    obtain ⟨fits, own⟩ := initial _ start.1
    refine ⟨fits, fun index => ?_, fun index other _ => ?_⟩
    · rw [start.2 index]
      exact own
    · rw [start.2 index, start.2 other]
      exact idle_apart
  · rintro _ tasks label _ holds ⟨shared, next, taken, rfl⟩
    obtain ⟨fits, own, undisturbed⟩ :=
      turn _ _ _ _ _ holds.shared (holds.own label.1) taken
    exact holds.advance symmetric fits own undisturbed

end Tasks

/-- A run with one more turn. -/
theorem System.Runs.turn {Initial : Shared → Prop} {idle : Local}
    {Turn : Shared → Local → Label → Shared → Local → Prop} {trace : List (Nat × Label)}
    {tasks : Tasks Shared Local} (run : (Tasks.system Initial idle Turn).Runs trace tasks)
    (index : Nat) {label : Label} {shared : Shared} {next : Local}
    (turn : Turn tasks.shared (tasks.task index) label shared next) :
    (Tasks.system Initial idle Turn).Runs (trace ++ [(index, label)])
      (tasks.advance index shared next) :=
  run.step ⟨shared, next, turn, rfl⟩

end Arisa.Semantics
