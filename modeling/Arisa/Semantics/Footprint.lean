import Mathlib.Logic.Basic

/-!
# What a program may depend on

A program that reads a state depends only on a part of it when it returns the
same on every two states that agree on that part. The property is kept by the
ways such programs are composed, so that it needs proof at the reads alone.
-/

namespace Arisa.Semantics

variable {σ ε α β : Type} {agree : σ → σ → Prop}

/-- `program` returns the same on every two states that `agree` relates. -/
def DependsOnly (agree : σ → σ → Prop) (program : σ → α) : Prop :=
  ∀ left right, agree left right → program left = program right

namespace DependsOnly

/-- A program that reads nothing depends on nothing. -/
theorem const (value : α) : DependsOnly agree fun _ => value := by
  intro left right _
  rfl

/-- What is computed from a result depends on what the result depends on. -/
theorem map {program : σ → α} (confined : DependsOnly agree program) (convert : α → β) :
    DependsOnly agree fun state => convert (program state) := by
  intro left right agreed
  exact congrArg convert (confined left right agreed)

/-- A sequence depends on what its parts depend on. -/
theorem bind {first : σ → Except ε α} {next : α → σ → Except ε β}
    (confined : DependsOnly agree first) (rest : ∀ value, DependsOnly agree (next value)) :
    DependsOnly agree fun state => first state >>= fun value => next value state := by
  intro left right agreed
  simp only [confined left right agreed, rest _ left right agreed]

end DependsOnly

end Arisa.Semantics
