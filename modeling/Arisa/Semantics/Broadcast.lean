/-!
# Bounded broadcast channels

A channel of capacity `c` keeps the last `c` of the values sent. A receiver is a
cursor into the sequence of all values ever sent; one whose cursor points at a
value no longer kept learns how many values it missed and continues at the
oldest kept one.
-/

namespace Arisa.Semantics.Broadcast

variable {Value : Type}

/-- What one receive returns. -/
inductive Received (Value : Type) where
  | value (value : Value)
  | lagged (missed : Nat)
  | empty
deriving DecidableEq

/-- Position of the oldest value kept. -/
def oldest (capacity : Nat) (sent : List Value) : Nat :=
  sent.length - capacity

/-- One receive at a cursor: the outcome and the cursor afterwards. -/
def receive (capacity : Nat) (sent : List Value) (cursor : Nat) : Received Value × Nat :=
  if cursor < oldest capacity sent then
    (.lagged (oldest capacity sent - cursor), oldest capacity sent)
  else
    match sent[cursor]? with
    | some value => (.value value, cursor + 1)
    | none => (.empty, cursor)

/-- The three things a receive can do. -/
theorem receive_cases (capacity : Nat) (sent : List Value) (cursor : Nat) :
    (∃ missed, 0 < missed ∧ cursor + missed + capacity = sent.length ∧
      receive capacity sent cursor = (.lagged missed, cursor + missed)) ∨
    (∃ value, sent[cursor]? = some value ∧
      receive capacity sent cursor = (.value value, cursor + 1)) ∨
    (sent[cursor]? = none ∧ receive capacity sent cursor = (.empty, cursor)) := by
  by_cases behind : cursor < oldest capacity sent
  · left
    have after : cursor + (oldest capacity sent - cursor) = oldest capacity sent := by omega
    refine ⟨oldest capacity sent - cursor, by omega, ?_, ?_⟩
    · rw [after]
      unfold oldest at behind ⊢
      omega
    · rw [after]
      simp only [receive, behind, if_true]
  · right
    cases kept : sent[cursor]? with
    | some value => exact .inl ⟨value, rfl, by simp only [receive, behind, if_false, kept]⟩
    | none => exact .inr ⟨rfl, by simp only [receive, behind, if_false, kept]⟩

end Arisa.Semantics.Broadcast
