/-
Module: DagScheduling.Proofs.Ranking.Peeling
Purpose: What the two rankings have in common: passes that each descend from the root to a leaf
  and delete it. Which child a descent steps to is left open, so that nothing here depends on
  weights, scores or draws.
Main exports: Peels, Peels.mem_flatten_iff, Peels.isRemoved_iff, Peels.childrenOf_eq, Grown,
  Grown.exists_path, Peels.grown, StopsAtUnknown, not_stopsAtUnknown_of_slots
-/
import DagScheduling.Proofs.Graph.Search
import DagScheduling.Proofs.Priority.Issuing
import DagScheduling.Ranking.Course
import Mathlib.Data.List.Chain

namespace DagScheduling

open DagScheduling.Graph (SameShape Deleted)
open Ledger (metAll)

variable {graph later final : Graph} {trace : List (List NodeId)} {order steps : List NodeId}
  {v w leaf : NodeId}

/-- A graph is taken apart down to `final` by passes that step along the paths
of `trace`. Weights may change on the way. -/
inductive Peels : Graph → List (List NodeId) → Graph → Prop
  | done {graph final : Graph} (bare : graph.childrenOf root = [])
      (same : SameShape graph final) : Peels graph [] final
  | pass {graph later final : Graph} {steps : List NodeId} {leaf : NodeId}
      {trace : List (List NodeId)} (descent : graph.Descent root steps leaf) (moved : steps ≠ [])
      (deleted : Deleted graph leaf later) (rest : Peels later trace final) :
      Peels graph (steps :: trace) final

/-- While the root has no children, nothing is filtered out for being below it. -/
theorem filter_of_bare {α : Type} {dest : α → NodeId} {items : List α}
    (bare : graph.childrenOf root = []) :
    (items.filter fun item => ¬ graph.Below root (dest item)) = items := by
  apply List.filter_eq_self.mpr
  intro item _
  exact decide_eq_true (Graph.not_below bare)

/-- What ends below the root is filtered out leaf by leaf. -/
theorem filter_of_deleted {α : Type} (descent : graph.Descent root steps leaf)
    (moved : steps ≠ []) (deleted : Deleted graph leaf later) (dest : α → NodeId)
    (items : List α) :
    ((items.filter fun item => dest item != leaf).filter
      fun item => ¬ later.Below root (dest item)) =
      items.filter fun item => ¬ graph.Below root (dest item) := by
  have leafBelow := descent.leaf_below moved
  rw [List.filter_filter]
  apply List.filter_congr
  intro item _
  have stays := deleted.below_iff descent.bare (v := root) (w := dest item)
  by_cases isLeaf : dest item = leaf
  · simp [isLeaf, leafBelow]
  · simp [isLeaf, stays]

namespace Peels

/-- Weights change nothing about how a graph can be taken apart. -/
theorem of_sameShape (peels : Peels later trace final) (same : SameShape graph later) :
    Peels graph trace final := by
  cases peels with
  | done bare sameFinal =>
      apply Peels.done _ (same.trans sameFinal)
      rw [← same.childrenOf]
      exact bare
  | pass descent moved deleted rest =>
      exact .pass (descent.sameShape same.symm) moved (deleted.of_sameShape same) rest

/-- The passes meet exactly the nodes below the root: only what is below can
be stepped to, and what is not met would still be below at the end. -/
theorem mem_flatten_iff (peels : Peels graph trace final) :
    v ∈ trace.flatten ↔ graph.Below root v := by
  induction peels with
  | done bare same =>
      constructor
      · intro member
        exact absurd member List.not_mem_nil
      · intro below
        exact absurd below (Graph.not_below bare)
  | @pass graph later final steps leaf trace descent moved deleted _ inductionHypothesis =>
      rw [List.flatten_cons, List.mem_append, inductionHypothesis,
        deleted.below_iff descent.bare]
      constructor
      · rintro (member | ⟨below, -⟩)
        · exact descent.below_of_mem member
        · exact below
      · intro below
        by_cases isLeaf : v = leaf
        · exact Or.inl (isLeaf ▸ descent.leaf_mem moved)
        · exact Or.inr ⟨below, isLeaf⟩

theorem nodeCount_eq (peels : Peels graph trace final) : final.nodeCount = graph.nodeCount := by
  induction peels with
  | done _ same => exact same.nodeCount
  | pass _ _ deleted _ inductionHypothesis => exact inductionHypothesis.trans deleted.nodeCount

/-- The passes delete exactly the nodes below the root. -/
theorem isRemoved_iff (peels : Peels graph trace final) :
    final.isRemoved v = true ↔ graph.isRemoved v = true ∨ graph.Below root v := by
  induction peels with
  | done bare same =>
      rw [same.isRemoved v]
      simp [Graph.not_below bare]
  | @pass graph later final steps leaf trace descent moved deleted _ inductionHypothesis =>
      rw [inductionHypothesis, deleted.isRemoved v, deleted.below_iff descent.bare,
        Bool.or_eq_true, beq_iff_eq]
      have leafBelow := descent.leaf_below moved
      by_cases isLeaf : v = leaf
      · simp [isLeaf, leafBelow]
      · simp [isLeaf]

/-- Every child list loses the children below the root and keeps the order of
the others. -/
theorem childrenOf_eq (peels : Peels graph trace final) (v : NodeId) :
    final.childrenOf v = (graph.childrenOf v).filter fun w => ¬ graph.Below root w := by
  induction peels with
  | done bare same =>
      rw [same.childrenOf v, filter_of_bare bare]
  | pass descent moved deleted _ inductionHypothesis =>
      rw [inductionHypothesis, deleted.childrenOf v]
      split
      · rename_i isLeaf
        rw [isLeaf, descent.bare]
        rfl
      · exact filter_of_deleted descent moved deleted (fun w => w) _

end Peels

/-! ### Growth from the root -/

/-- Every node of an order is a child of the root or of a node before it. -/
inductive Grown (graph : Graph) : List NodeId → Prop
  | start : Grown graph []
  | more {order : List NodeId} {parent v : NodeId} (earlier : Grown graph order)
      (known : parent = root ∨ parent ∈ order) (child : graph.Child parent v) :
      Grown graph (order ++ [v])

namespace Grown

/-- A descent from a node met before goes on with the growth. -/
theorem metAll (grown : Grown graph order) (known : v = root ∨ v ∈ order)
    (descent : later.Descent v steps leaf)
    (within : ∀ u w, later.Child u w → graph.Child u w) :
    Grown graph (metAll order steps) := by
  induction descent generalizing order with
  | stay => exact grown
  | @step v w leaf steps child _ inductionHypothesis =>
      show Grown graph (Ledger.metAll (Ledger.met order w) steps)
      by_cases old : w = root ∨ w ∈ order
      · rw [Ledger.met, if_pos old]
        exact inductionHypothesis grown old
      · rw [Ledger.met, if_neg old]
        apply inductionHypothesis (grown.more known (within v w child))
        exact Or.inr (List.mem_append_right order (List.mem_singleton_self w))

/-- Every node of the order is preceded by a parent, unless the root is one. -/
theorem exists_parent (grown : Grown graph order) (member : v ∈ order) :
    ∃ before after parent, order = before ++ v :: after ∧ (parent = root ∨ parent ∈ before) ∧
      graph.Child parent v := by
  induction grown with
  | start => exact absurd member List.not_mem_nil
  | @more order parent last _ known child inductionHypothesis =>
      rcases List.mem_append.mp member with old | new
      · obtain ⟨before, after, parent, split, known, child⟩ := inductionHypothesis old
        refine ⟨before, after ++ [last], parent, ?_, known, child⟩
        rw [split, List.append_assoc, List.cons_append]
      · rw [List.mem_singleton] at new
        subst new
        exact ⟨order, [], parent, rfl, known, child⟩

/-- Every node of the order ends a path from the root that meets the nodes on
it in the order. -/
theorem exists_path (grown : Grown graph order) (member : v ∈ order) :
    ∃ path : List NodeId, List.IsChain graph.Child (root :: path) ∧
      path.getLast? = some v ∧ path.Sublist order := by
  induction grown generalizing v with
  | start => exact absurd member List.not_mem_nil
  | @more order parent last _ known child inductionHypothesis =>
      rcases List.mem_append.mp member with old | new
      · obtain ⟨path, chain, ends, within⟩ := inductionHypothesis old
        exact ⟨path, chain, ends, within.trans (List.sublist_append_left order [last])⟩
      · rw [List.mem_singleton] at new
        subst new
        rcases known with isRoot | parentMember
        · subst isRoot
          refine ⟨[v], ?_, rfl, List.sublist_append_right order [v]⟩
          exact List.IsChain.cons_cons child (List.IsChain.singleton v)
        · obtain ⟨path, chain, ends, within⟩ := inductionHypothesis parentMember
          refine ⟨path ++ [v], ?_, ?_, within.append (List.Sublist.refl [v])⟩
          · rw [← List.cons_append]
            apply List.IsChain.append chain (List.IsChain.singleton v)
            intro last isLast first isFirst
            rw [List.getLast?_cons, ends] at isLast
            cases isLast
            cases isFirst
            exact child
          · exact List.getLast?_concat

end Grown

theorem Peels.grown (peels : Peels later trace final) (grown : Grown graph order)
    (within : ∀ u w, later.Child u w → graph.Child u w) :
    Grown graph (metAll order trace.flatten) := by
  induction peels generalizing order with
  | done => exact grown
  | pass descent _ deleted _ inductionHypothesis =>
      rw [List.flatten_cons, Ledger.metAll_append]
      apply inductionHypothesis (grown.metAll (Or.inl rfl) descent within)
      intro u w child
      exact within u w (deleted.child_of_child child)

/-! ### The only way a ranking fails -/

/-- A ranking stops because a node that it reaches has no slot among `0..=count`. -/
def StopsAtUnknown {S α : Type} (reached : NodeId → Prop) (count : Nat)
    (result : Except (Stopped S) α) : Prop :=
  ∃ stopped v, result = .error stopped ∧ stopped.failure = .reported (.unknownNode v) ∧
    reached v ∧ count < v

theorem StopsAtUnknown.mono {S α : Type} {reached wider : NodeId → Prop} {count : Nat}
    {result : Except (Stopped S) α} (stops : StopsAtUnknown reached count result)
    (widen : ∀ v, reached v → wider v) : StopsAtUnknown wider count result := by
  obtain ⟨stopped, v, isError, cause, here, beyond⟩ := stops
  exact ⟨stopped, v, isError, cause, widen v here, beyond⟩

theorem not_stopsAtUnknown_of_slots {S α : Type} {reached : NodeId → Prop} {count : Nat}
    {ledger : Ledger} {result : Except (Stopped S) α} (issued : ledger.Issued count order)
    (slots : ∀ v, reached v → v < ledger.slots.size) : ¬ StopsAtUnknown reached count result := by
  rintro ⟨_, v, -, -, here, beyond⟩
  have slot := slots v here
  rw [issued.size] at slot
  exact Nat.not_lt.mpr (Nat.le_of_lt_succ slot) beyond

end DagScheduling
