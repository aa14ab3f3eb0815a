import Mathlib.Control.Lawful

/-!
# Programs that talk to their platform

A program asks calls and goes on with the answers. A platform answers by what it has been
asked so far, and otherwise as it likes. `Ensures` is the weakest precondition of a rule
about which calls are allowed when and of a postcondition on the result and the whole
history; `run_of_ensures` brings it to the runs on every platform.
-/

namespace Arisa.Semantics.Interaction

variable {Call : Type} {Answer : Call → Type} {α β Failure : Type}

inductive Program (Answer : Call → Type) (α : Type) where
  | done (value : α)
  | ask (call : Call) (next : Answer call → Program Answer α)

/-- A call with the answer to it. -/
structure Event (Answer : Call → Type) where
  call : Call
  answer : Answer call

abbrev History (Answer : Call → Type) := List (Event Answer)

/-- The answers may depend on everything that has been asked and answered before. -/
abbrev Platform (Answer : Call → Type) := History Answer → (call : Call) → Answer call

namespace Program

def bind : Program Answer α → (α → Program Answer β) → Program Answer β
  | .done value, next => next value
  | .ask call answered, next => .ask call fun answer => (answered answer).bind next

instance : Monad (Program Answer) where
  pure := .done
  bind := .bind

/-- One call. -/
def request (call : Call) : Program Answer (Answer call) :=
  .ask call .done

/-- The result on a platform, and the history with what the run adds to it. -/
def run (platform : Platform Answer) : Program Answer α → History Answer → α × History Answer
  | .done value, history => (value, history)
  | .ask call next, history =>
      let answer := platform history call
      (next answer).run platform (history ++ [⟨call, answer⟩])

/-- The result where a call is always answered in the same way. -/
def eval (device : (call : Call) → Answer call) : Program Answer α → α
  | .done value => value
  | .ask call next => (next (device call)).eval device

/-- Whatever is answered, each call is allowed where it is made, and the result and the
history at the end meet `post`. -/
def Ensures (allowed : History Answer → Call → Prop) (post : α → History Answer → Prop) :
    Program Answer α → History Answer → Prop
  | .done value, history => post value history
  | .ask call next, history =>
      allowed history call ∧
        ∀ answer, (next answer).Ensures allowed post (history ++ [⟨call, answer⟩])

end Program

/-- Every call of a history is allowed after what precedes it. -/
def Legal (allowed : History Answer → Call → Prop) (history : History Answer) : Prop :=
  ∀ before event, before ++ [event] <+: history → allowed before event.call

variable {allowed : History Answer → Call → Prop} {history : History Answer}

/-- A history without calls is legal. -/
theorem legal_nil : Legal allowed ([] : History Answer) := by
  intro before event start
  simp at start

/-- One more call has to be allowed after those before it. -/
theorem Legal.snoc {event : Event Answer} (legal : Legal allowed history)
    (next : allowed history event.call) : Legal allowed (history ++ [event]) := by
  intro before last start
  rcases List.prefix_concat_iff.mp start with whole | earlier
  · obtain ⟨rfl, same⟩ := List.append_inj' whole rfl
    rw [List.singleton_inj] at same
    exact same ▸ next
  · exact legal before last earlier

namespace Program

variable {program : Program Answer α} {post : α → History Answer → Prop}

/-- A guarantee may be weakened at the end of a program. -/
theorem Ensures.mono {weaker : α → History Answer → Prop}
    (ensures : program.Ensures allowed post history)
    (implies : ∀ value later, post value later → weaker value later) :
    program.Ensures allowed weaker history := by
  induction program generalizing history with
  | done value => exact implies value history ensures
  | ask call next ih =>
      obtain ⟨legal, each⟩ := ensures
      exact ⟨legal, fun answer => ih answer (each answer)⟩

/-- The sequence rule: the second program starts from what the first one guarantees. -/
theorem ensures_bind {next : α → Program Answer β} {post : β → History Answer → Prop} :
    (program >>= next).Ensures allowed post history ↔
      program.Ensures allowed (fun value later => (next value).Ensures allowed post later)
        history := by
  induction program generalizing history with
  | done value => rfl
  | ask call answered ih => exact and_congr_right fun _ => forall_congr' fun answer => ih answer

/-- The rule for one call: it is allowed, and every answer will do. -/
theorem ensures_request {call : Call} {post : Answer call → History Answer → Prop} :
    (request call).Ensures allowed post history ↔
      allowed history call ∧ ∀ answer, post answer (history ++ [⟨call, answer⟩]) :=
  Iff.rfl

/-- On any platform, a run only makes calls that are allowed, and ends as promised. -/
theorem run_of_ensures (platform : Platform Answer)
    (ensures : program.Ensures allowed post history) (legal : Legal allowed history) :
    let result := program.run platform history
    Legal allowed result.2 ∧ post result.1 result.2 := by
  induction program generalizing history with
  | done value => exact ⟨legal, ensures⟩
  | ask call next ih =>
      obtain ⟨permitted, each⟩ := ensures
      exact ih _ (each _) (legal.snoc permitted)

section Eval

variable (device : (call : Call) → Answer call)

/-- On a device that answers by the call alone, the history does not matter to the value. -/
theorem run_eval (history : History Answer) :
    (program.run (fun _ => device) history).1 = program.eval device := by
  induction program generalizing history with
  | done value => rfl
  | ask call next ih => exact ih _ _

/-- Evaluated against such a device, a call is worth the device's answer. -/
@[simp] theorem eval_request (call : Call) : (request call).eval device = device call := rfl

/-- A returned value is worth itself. -/
@[simp] theorem eval_pure (value : α) : (pure value : Program Answer α).eval device = value := rfl

/-- A sequence is worth its second program after the value of the first. -/
@[simp] theorem eval_bind (next : α → Program Answer β) :
    (program >>= next).eval device = (next (program.eval device)).eval device := by
  induction program with
  | done value => rfl
  | ask call answered ih => exact ih _

end Eval

end Program

/-! ### Programs that may fail -/

/-- A program with `?`. -/
abbrev Fallible (Answer : Call → Type) (Failure : Type) := ExceptT Failure (Program Answer)

namespace Fallible

variable {program : Fallible Answer Failure α}
  {post : Except Failure β → History Answer → Prop}

/-- The outcome of a program as a value: `?` not applied. -/
def attempt (program : Fallible Answer Failure α) :
    Fallible Answer Failure (Except Failure α) :=
  ExceptT.lift program.run

/-- What follows a program runs if it returns. -/
theorem ensures_bind {next : α → Fallible Answer Failure β} :
    Program.Ensures allowed post (program >>= next).run history ↔
      Program.Ensures allowed (fun outcome later =>
        match outcome with
        | .ok value => Program.Ensures allowed post (next value).run later
        | .error failure => post (.error failure) later) program.run history := by
  change Program.Ensures allowed post
    ((program.run : Program Answer _) >>= ExceptT.bindCont next) history ↔ _
  rw [Program.ensures_bind]
  constructor
  all_goals
    intro ensures
    refine ensures.mono fun outcome later met => ?_
    cases outcome with
    | ok value => exact met
    | error failure => exact met

/-- For programs that may give up, the rule for returning a value. -/
theorem ensures_pure {value : β} :
    Program.Ensures allowed post (pure value : Fallible Answer Failure β).run history ↔
      post (.ok value) history :=
  Iff.rfl

/-- The rule for giving up with a failure. -/
theorem ensures_throw {failure : Failure} :
    Program.Ensures allowed post (throw failure : Fallible Answer Failure β).run history ↔
      post (.error failure) history :=
  Iff.rfl

/-- A program that cannot fail among those that may. -/
theorem ensures_lift {program : Program Answer β} :
    Program.Ensures allowed post (liftM program : Fallible Answer Failure β).run history ↔
      program.Ensures allowed (fun value => post (.ok value)) history :=
  Program.ensures_bind

/-- The continuation of a program that cannot fail always runs. -/
theorem ensures_lift_bind {program : Program Answer α} {next : α → Fallible Answer Failure β} :
    Program.Ensures allowed post (liftM program >>= next).run history ↔
      program.Ensures allowed
        (fun value later => Program.Ensures allowed post (next value).run later) history := by
  rw [ensures_bind, ensures_lift]

/-- The rule for going on with the outcome as a value. -/
theorem ensures_attempt {program : Fallible Answer Failure α}
    {post : Except Failure (Except Failure α) → History Answer → Prop} :
    Program.Ensures allowed post (attempt program).run history ↔
      Program.Ensures allowed (fun outcome => post (.ok outcome)) program.run history :=
  Program.ensures_bind

/-- Another failure in place of the one of the program. -/
theorem ensures_adapt_bind {Other : Type} {program : Fallible Answer Other α}
    {wrap : Other → Failure} {next : α → Fallible Answer Failure β} :
    Program.Ensures allowed post (program.adapt wrap >>= next).run history ↔
      Program.Ensures allowed (fun outcome later =>
        match outcome with
        | .ok value => Program.Ensures allowed post (next value).run later
        | .error failure => post (.error (wrap failure)) later) program.run history := by
  rw [ensures_bind]
  refine Program.ensures_bind.trans ⟨?_, ?_⟩
  all_goals
    intro ensures
    refine ensures.mono fun outcome later met => ?_
    cases outcome with
    | ok value => exact met
    | error failure => exact met

section Eval

variable (device : (call : Call) → Answer call)

/-- A program that returns hands its value on. -/
theorem eval_bind_ok {next : α → Fallible Answer Failure β} {value : α}
    (returns : program.run.eval device = .ok value) :
    (program >>= next).run.eval device = (next value).run.eval device := by
  change (program.run >>= ExceptT.bindCont next).eval device = _
  rw [Program.eval_bind, returns]
  rfl

/-- A program that gives up ends the sequence. -/
theorem eval_bind_error {next : α → Fallible Answer Failure β} {failure : Failure}
    (fails : program.run.eval device = .error failure) :
    (program >>= next).run.eval device = .error failure := by
  change (program.run >>= ExceptT.bindCont next).eval device = _
  rw [Program.eval_bind, fails]
  rfl

/-- A program that cannot give up is only run. -/
theorem eval_lift_bind (program : Program Answer α) {next : α → Fallible Answer Failure β} :
    (liftM program >>= next).run.eval device = (next (program.eval device)).run.eval device :=
  eval_bind_ok device (Program.eval_bind device _)

/-- An attempt hands its outcome on, failures included. -/
theorem eval_attempt_bind {next : Except Failure α → Fallible Answer Failure β} :
    (attempt program >>= next).run.eval device =
      (next (program.run.eval device)).run.eval device :=
  eval_bind_ok device (Program.eval_bind device _)

/-- Wrapping failures leaves a value alone. -/
theorem eval_adapt_ok {Other : Type} {wrap : Failure → Other} {value : α}
    (returns : program.run.eval device = .ok value) :
    (program.adapt wrap).run.eval device = .ok value := by
  change (program.run >>= fun outcome => pure (outcome.mapError wrap)).eval device = _
  rw [Program.eval_bind, returns]
  rfl

/-- Wrapping makes a failure one of the other kind. -/
theorem eval_adapt_error {Other : Type} {wrap : Failure → Other} {failure : Failure}
    (fails : program.run.eval device = .error failure) :
    (program.adapt wrap).run.eval device = .error (wrap failure) := by
  change (program.run >>= fun outcome => pure (outcome.mapError wrap)).eval device = _
  rw [Program.eval_bind, fails]
  rfl

end Eval

end Fallible

end Arisa.Semantics.Interaction
