import Mathlib.Data.Fintype.Card
import Mathlib.Data.Set.Finite.Basic
import Mathlib.Order.WellFounded
import Mathlib.Logic.Relation

/-!
# Depth-first exploration

A node is visited by exploring its targets from left to right, up to the first
that fails; a node that cannot be visited fails. `search` bounds the depth.
Exploration ends exactly when no chain of demanded targets is infinite, which for
finitely many nodes means that no chain returns to one of its nodes.
-/

namespace Arisa.Semantics

universe u

variable {Node : Type u}

/-- Explore targets in order, up to the first that does not succeed. -/
def searchAll (search : Node → Option Bool) : List Node → Option Bool
  | [] => some true
  | node :: rest =>
      match search node with
      | some true => searchAll search rest
      | some false => some false
      | none => none

/-- Whether the node succeeds; `none` when the depth was not enough. -/
def search (visit : Node → Option (List Node)) : Nat → Node → Option Bool
  | 0, _ => none
  | fuel + 1, node =>
      match visit node with
      | none => some false
      | some targets => searchAll (search visit fuel) targets

section Exploration

variable (visit : Node → Option (List Node))

/-- A node that cannot be visited is reachable through targets. -/
inductive Fails : Node → Prop where
  | here {node} (malformed : visit node = none) : Fails node
  | through {node targets target} (visited : visit node = some targets)
      (member : target ∈ targets) (fails : Fails target) : Fails node

/-- `target` is explored for `node`: nothing before it fails. -/
def Demands (target node : Node) : Prop :=
  ∃ before after, visit node = some (before ++ target :: after) ∧
    ∀ earlier ∈ before, ¬ Fails visit earlier

variable {visit} {search₁ search₂ : Node → Option Bool}

/-- A search of several nodes succeeds exactly if each of them does. -/
theorem searchAll_eq_true {targets : List Node} :
    searchAll search₁ targets = some true ↔ ∀ target ∈ targets, search₁ target = some true := by
  induction targets with
  | nil => simp [searchAll]
  | cons target rest ih =>
      rw [searchAll, List.forall_mem_cons]
      cases found : search₁ target with
      | none => simp
      | some verdict =>
          cases verdict with
          | false => simp
          | true => simp [ih]

/-- A failing list fails at its first failing target. -/
theorem searchAll_eq_false {targets : List Node} :
    searchAll search₁ targets = some false ↔
      ∃ before target after, targets = before ++ target :: after ∧
        (∀ earlier ∈ before, search₁ earlier = some true) ∧ search₁ target = some false := by
  induction targets with
  | nil => simp [searchAll]
  | cons head rest ih =>
      rw [searchAll]
      cases found : search₁ head with
      | none =>
          simp only [reduceCtorEq, false_iff]
          rintro ⟨before, target, after, split, earlier, fails⟩
          cases before with
          | nil =>
              cases split
              rw [found] at fails
              cases fails
          | cons first before =>
              cases split
              have succeeds := earlier head (List.mem_cons_self ..)
              rw [found] at succeeds
              cases succeeds
      | some verdict =>
          cases verdict with
          | false =>
              simp only [true_iff]
              exact ⟨[], head, rest, rfl, by simp, found⟩
          | true =>
              simp only [ih]
              constructor
              · rintro ⟨before, target, after, rfl, earlier, fails⟩
                refine ⟨head :: before, target, after, rfl, ?_, fails⟩
                exact List.forall_mem_cons.mpr ⟨found, earlier⟩
              · rintro ⟨before, target, after, split, earlier, fails⟩
                cases before with
                | nil =>
                    cases split
                    rw [found] at fails
                    cases fails
                | cons first before =>
                    cases split
                    exact ⟨before, target, after, rfl,
                      fun other member => earlier other (List.mem_cons_of_mem _ member), fails⟩

/-- It keeps its verdict when the nodes keep theirs. -/
theorem searchAll_mono (agrees : ∀ node verdict, search₁ node = some verdict →
    search₂ node = some verdict) {targets : List Node} {verdict : Bool}
    (found : searchAll search₁ targets = some verdict) :
    searchAll search₂ targets = some verdict := by
  cases verdict with
  | true =>
      rw [searchAll_eq_true] at found ⊢
      exact fun target member => agrees _ _ (found target member)
  | false =>
      rw [searchAll_eq_false] at found ⊢
      obtain ⟨before, target, after, split, earlier, fails⟩ := found
      exact ⟨before, target, after, split,
        fun other member => agrees _ _ (earlier other member), agrees _ _ fails⟩

/-- Nodes that are given by items can be searched item by item. -/
theorem searchAll_map {Item : Type u} (place : Item → Node) (items : List Item) :
    searchAll search₁ (items.map place) = searchAll (fun item => search₁ (place item)) items := by
  induction items with
  | nil => rfl
  | cons item rest ih =>
      rw [List.map_cons, searchAll, searchAll, ih]

/-- More depth does not change a verdict. -/
theorem search_succ {fuel : Nat} {node : Node} {verdict : Bool}
    (found : search visit fuel node = some verdict) :
    search visit (fuel + 1) node = some verdict := by
  induction fuel generalizing node verdict with
  | zero => cases found
  | succ fuel ih =>
      rw [search] at found ⊢
      cases visited : visit node with
      | none => simpa [visited] using found
      | some targets =>
          simp only [visited] at found ⊢
          exact searchAll_mono (fun _ _ => ih) found

/-- A deeper bound changes no verdict. -/
theorem search_mono {fuel more : Nat} (enough : fuel ≤ more) {node : Node} {verdict : Bool}
    (found : search visit fuel node = some verdict) : search visit more node = some verdict := by
  induction enough with
  | refl => exact found
  | step _ ih => exact search_succ ih

/-- The verdict tells whether a node that cannot be visited is reachable. -/
theorem search_verdict {fuel : Nat} {node : Node} {verdict : Bool}
    (found : search visit fuel node = some verdict) : verdict = true ↔ ¬ Fails visit node := by
  induction fuel generalizing node verdict with
  | zero => cases found
  | succ fuel ih =>
      rw [search] at found
      cases visited : visit node with
      | none =>
          simp only [visited, Option.some.injEq] at found
          subst found
          simp [Fails.here visited]
      | some targets =>
          simp only [visited] at found
          cases verdict with
          | true =>
              simp only [true_iff]
              intro fails
              cases fails with
              | here malformed =>
                  rw [visited] at malformed
                  cases malformed
              | through again member fails =>
                  rw [visited] at again
                  cases again
                  exact (ih (searchAll_eq_true.mp found _ member)).mp rfl fails
          | false =>
              obtain ⟨before, target, after, rfl, -, failed⟩ := searchAll_eq_false.mp found
              simp only [Bool.false_eq_true, false_iff, not_not]
              apply Fails.through visited (List.mem_append_right _ (List.mem_cons_self ..))
              by_contra succeeds
              exact absurd ((ih failed).mpr succeeds) (by simp)

/-- What ends has no infinite chain of demands. -/
theorem acc_of_search {fuel : Nat} {node : Node} (ends : (search visit fuel node).isSome) :
    Acc (Demands visit) node := by
  induction fuel generalizing node with
  | zero => cases ends
  | succ fuel ih =>
      constructor
      rintro target ⟨before, after, visited, earlier⟩
      apply ih
      rw [search, visited] at ends
      -- The search of the targets before this one succeeds, so this one is searched.
      have reached : ∀ before, (∀ earlier ∈ before, ¬ Fails visit earlier) →
          (searchAll (search visit fuel) (before ++ target :: after)).isSome →
          (search visit fuel target).isSome := by
        intro before earlier ends
        induction before with
        | nil =>
            cases found : search visit fuel target with
            | none => simp [searchAll, found] at ends
            | some verdict => rfl
        | cons first before tail =>
            rw [List.cons_append, searchAll] at ends
            obtain ⟨firstSucceeds, others⟩ := List.forall_mem_cons.mp earlier
            cases found : search visit fuel first with
            | none => simp [found] at ends
            | some verdict =>
                have succeeded := (search_verdict found).mpr firstSucceeds
                subst succeeded
                simp only [found] at ends
                exact tail others ends
      exact reached before earlier ends

/-- Without an infinite chain of demands the exploration ends. -/
theorem search_of_acc {node : Node} (accessible : Acc (Demands visit) node) :
    ∃ fuel, (search visit fuel node).isSome := by
  induction accessible with
  | intro node _ ih =>
      cases visited : visit node with
      | none => exact ⟨1, by simp [search, visited]⟩
      | some targets =>
          have all : ∀ before after, targets = before ++ after →
              (∀ earlier ∈ before, ¬ Fails visit earlier) →
              ∃ fuel, (searchAll (search visit fuel) after).isSome := by
            intro before after split earlier
            induction after generalizing before with
            | nil => exact ⟨0, rfl⟩
            | cons target after tail =>
                obtain ⟨fuel, ends⟩ := ih target ⟨before, after, split ▸ visited, earlier⟩
                obtain ⟨verdict, found⟩ := Option.isSome_iff_exists.mp ends
                cases verdict with
                | false => exact ⟨fuel, by simp [searchAll, found]⟩
                | true =>
                    have succeeds := (search_verdict found).mp rfl
                    obtain ⟨more, rest⟩ := tail (before ++ [target]) (by simp [split]) (by
                      intro other member
                      rcases List.mem_append.mp member with old | new
                      · exact earlier other old
                      · rw [List.mem_singleton] at new
                        exact new ▸ succeeds)
                    obtain ⟨restVerdict, restFound⟩ := Option.isSome_iff_exists.mp rest
                    refine ⟨max fuel more, ?_⟩
                    rw [searchAll, search_mono (Nat.le_max_left _ _) found]
                    simp only
                    rw [searchAll_mono (fun _ _ => search_mono (Nat.le_max_right _ _)) restFound]
                    rfl
          obtain ⟨fuel, ends⟩ := all [] targets rfl (by simp)
          exact ⟨fuel + 1, by simpa [search, visited] using ends⟩

/-- A search ends exactly from the nodes that have no endless path. -/
theorem search_ends_iff {node : Node} :
    (∃ fuel, (search visit fuel node).isSome) ↔ Acc (Demands visit) node :=
  ⟨fun ⟨_, ends⟩ => acc_of_search ends, search_of_acc⟩

variable (visit)

/-- Following demands from `node` reaches a node that demands lead back to. -/
def Cyclic (node : Node) : Prop :=
  ∃ repeated, Relation.ReflTransGen (fun parent target => Demands visit target parent) node
      repeated ∧
    Relation.TransGen (fun parent target => Demands visit target parent) repeated repeated

variable {visit}

/-- Such a node is on no cycle. -/
theorem not_cyclic_of_acc {node : Node} (accessible : Acc (Demands visit) node) :
    ¬ Cyclic visit node := by
  rintro ⟨repeated, reached, loop⟩
  have accessibleThere : Acc (Demands visit) repeated := by
    clear loop
    induction reached with
    | refl => exact accessible
    | tail _ demanded accessibleBefore => exact accessibleBefore.inv demanded
  have loops : Relation.TransGen (Demands visit) repeated repeated :=
    Relation.transGen_swap.mp loop
  have endless : ∀ node, Acc (Relation.TransGen (Demands visit)) node →
      ¬ Relation.TransGen (Demands visit) node node := by
    intro node accessible
    induction accessible with
    | intro node _ ih => exact fun loops => ih node loops loops
  exact endless repeated accessibleThere.transGen loops

/-- Among finitely many nodes, an exploration without a cycle ends. -/
theorem acc_of_not_cyclic {nodes : Set Node} (finite : nodes.Finite)
    (closed : ∀ node ∈ nodes, ∀ target, Demands visit target node → target ∈ nodes)
    {node : Node} (start : node ∈ nodes) (acyclic : ¬ Cyclic visit node) :
    Acc (Demands visit) node := by
  let demanded : Node → Node → Prop := fun parent target => Demands visit target parent
  let Reached := { other // other ∈ nodes ∧ Relation.ReflTransGen demanded node other }
  let below : Reached → Reached → Prop := fun target parent =>
    Relation.TransGen (Demands visit) target.1 parent.1
  have : Finite Reached := (finite.subset fun _ both => both.1).to_subtype
  have : IsTrans Reached below := ⟨fun _ _ _ => Relation.TransGen.trans⟩
  have : Std.Irrefl below :=
    ⟨fun repeated loop => acyclic ⟨repeated.1, repeated.2.2, Relation.transGen_swap.mp loop⟩⟩
  have wellFounded : WellFounded below := Finite.wellFounded_of_trans_of_irrefl below
  have transfer : ∀ other : Reached, Acc below other → Acc (Demands visit) other.1 := by
    intro other accessible
    induction accessible with
    | intro other _ ih =>
        constructor
        intro target demands
        have inside := closed other.1 other.2.1 target demands
        exact ih ⟨target, inside, other.2.2.tail demands⟩ (.single demands)
  exact transfer ⟨node, start, .refl⟩ (wellFounded.apply _)

/-- Among finitely many nodes, exploration ends exactly without a cycle. -/
theorem search_ends_iff_not_cyclic {nodes : Set Node} (finite : nodes.Finite)
    (closed : ∀ node ∈ nodes, ∀ target, Demands visit target node → target ∈ nodes)
    {node : Node} (start : node ∈ nodes) :
    (∃ fuel, (search visit fuel node).isSome) ↔ ¬ Cyclic visit node := by
  rw [search_ends_iff]
  exact ⟨not_cyclic_of_acc, acc_of_not_cyclic finite closed start⟩

end Exploration
end Arisa.Semantics
