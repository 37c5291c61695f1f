/-
Module: DagScheduling.Proofs.Graph.Operations
Purpose: Graphs under calls in any order and with any arguments. The run of calls alone tells
  which edges there are after it, and whether a removed node has come back.
Main exports: Graph.Operation, Graph.perform, Graph.performAll, Graph.edited_perform,
  Graph.Joins, Graph.isRemoved_performAll, Graph.child_performAll, Graph.removed_stay_away_iff
-/
import DagScheduling.Proofs.Graph.Paths
import Mathlib.Tactic.ByContra
import Mathlib.Tactic.Tauto

namespace DagScheduling.Graph

/-- A call that changes a graph. -/
inductive Operation
  | addEdge (source dest : NodeId) (weight : Float)
  | setWeight (source dest : NodeId) (weight : Float)
  | removeNode (node : NodeId)
  | weighByFanOut (base multiplier : Float)

/-- The answer to a call. -/
def Operation.apply (graph : Graph) : Operation → Except GraphError Graph
  | .addEdge source dest weight => graph.addEdge source dest weight
  | .setWeight source dest weight => graph.setWeight source dest weight
  | .removeNode node => graph.removeNode node
  | .weighByFanOut base multiplier => .ok (graph.weighByFanOut base multiplier)

/-- The graph after a call. A call that fails leaves it as it is. -/
def perform (graph : Graph) (op : Operation) : Graph :=
  match op.apply graph with
  | .ok later => later
  | .error _ => graph

/-- The graph after a run of calls. -/
def performAll (graph : Graph) (ops : List Operation) : Graph :=
  ops.foldl perform graph

variable {graph : Graph} {op : Operation} {ops rest : List Operation} {count : Nat} {v w : NodeId}

/-! ### One call -/

/-- The call adds an edge from `v` to `w` to a graph of `count` nodes. -/
def Operation.Links (op : Operation) (count : Nat) (v w : NodeId) : Prop :=
  ∃ weight, op = .addEdge v w weight ∧ v < count ∧ w < count

/-- All that a call can do, weights aside: it adds an edge, deletes a node, or does neither. -/
inductive Edited (graph : Graph) : Operation → Graph → Prop
  | linked {source dest : NodeId} {weight : Float} {later : Graph}
      (links : (Operation.addEdge source dest weight).Links graph.nodeCount source dest)
      (nodeCount : later.nodeCount = graph.nodeCount)
      (isRemoved : ∀ u, later.isRemoved u = graph.isRemoved u)
      (childrenOf : ∀ u, later.childrenOf u =
        graph.childrenOf u ++ if u = source then [dest] else []) :
      Edited graph (.addEdge source dest weight) later
  | deleted {node : NodeId} {later : Graph} (inRange : node < graph.nodeCount)
      (deleted : Deleted graph node later) : Edited graph (.removeNode node) later
  | neither {op : Operation} {later : Graph} (linksNone : ∀ v w, ¬ op.Links graph.nodeCount v w)
      (deletesNone : ∀ v, op = .removeNode v → graph.nodeCount ≤ v)
      (same : SameShape graph later) : Edited graph op later

theorem edited_perform (graph : Graph) (op : Operation) : Edited graph op (graph.perform op) := by
  cases op with
  | addEdge source dest weight =>
      by_cases links : source < graph.nodeCount ∧ dest < graph.nodeCount
      · obtain ⟨later, added, nodeCount, isRemoved, edges⟩ :=
          graph.addEdge_ok weight links.1 links.2
        rw [perform, Operation.apply, added]
        refine .linked ⟨weight, rfl, links⟩ nodeCount isRemoved ?_
        intro u
        rw [childrenOf, edges u, List.map_append]
        split <;> rfl
      · have refused : graph.perform (.addEdge source dest weight) = graph := by
          rw [perform, Operation.apply, addEdge]
          by_cases sourceInRange : source < graph.nodeCount
          · rw [if_pos sourceInRange,
              dif_neg (fun destInRange => links ⟨sourceInRange, destInRange⟩)]
          · rw [if_neg sourceInRange]
        rw [refused]
        refine .neither ?_ (by rintro v ⟨⟩) (.refl graph)
        rintro v w ⟨_, isLink, inRange⟩
        cases isLink
        exact links inRange
  | setWeight source dest weight =>
      refine .neither (by rintro v w ⟨_, ⟨⟩, -⟩) (by rintro v ⟨⟩) ?_
      rw [perform, Operation.apply]
      cases isSet : graph.setWeight source dest weight with
      | error cause => exact .refl graph
      | ok later => exact sameShape_of_setWeight isSet
  | removeNode node =>
      by_cases inRange : node < graph.nodeCount
      · obtain ⟨later, removed, deleted, -⟩ := graph.removeNode_ok inRange
        rw [perform, Operation.apply, removed]
        exact .deleted inRange deleted
      · have refused : graph.perform (.removeNode node) = graph := by
          rw [perform, Operation.apply, removeNode, if_neg inRange]
        rw [refused]
        refine .neither (by rintro v w ⟨_, ⟨⟩, -⟩) ?_ (.refl graph)
        intro v isRemoval
        cases isRemoval
        exact Nat.le_of_not_lt inRange
  | weighByFanOut base multiplier =>
      exact .neither (by rintro v w ⟨_, ⟨⟩, -⟩) (by rintro v ⟨⟩)
        (graph.sameShape_weighByFanOut base multiplier)

theorem nodeCount_perform (graph : Graph) (op : Operation) :
    (graph.perform op).nodeCount = graph.nodeCount := by
  cases edited_perform graph op with
  | linked _ nodeCount => exact nodeCount
  | deleted _ deleted => exact deleted.nodeCount
  | neither _ _ same => exact same.nodeCount

theorem isRemoved_perform : (graph.perform op).isRemoved v = true ↔
    graph.isRemoved v = true ∨ op = .removeNode v ∧ v < graph.nodeCount := by
  generalize isLater : graph.perform op = later
  cases isLater ▸ edited_perform graph op with
  | linked _ _ isRemoved => simp [isRemoved v]
  | deleted inRange deleted =>
      rw [deleted.isRemoved v, Bool.or_eq_true, beq_iff_eq, Operation.removeNode.injEq]
      constructor
      · rintro (same | old)
        · exact Or.inr ⟨same.symm, same ▸ inRange⟩
        · exact Or.inl old
      · rintro (old | ⟨same, -⟩)
        · exact Or.inr old
        · exact Or.inl same.symm
  | neither _ deletesNone same =>
      rw [same.isRemoved v]
      constructor
      · exact Or.inl
      · rintro (old | ⟨isRemoval, inRange⟩)
        · exact old
        · exact absurd inRange (Nat.not_lt.mpr (deletesNone v isRemoval))

/-- After a call there are the edges that it adds, and the old ones unless it removes an end. -/
theorem child_perform : (graph.perform op).Child v w ↔
    graph.Child v w ∧ op ≠ .removeNode v ∧ op ≠ .removeNode w ∨ op.Links graph.nodeCount v w := by
  generalize isLater : graph.perform op = later
  cases isLater ▸ edited_perform graph op with
  | @linked source dest weight _ inRange _ _ childrenOf =>
      have links : (Operation.addEdge source dest weight).Links graph.nodeCount v w ↔
          v = source ∧ w = dest := by
        constructor
        · rintro ⟨_, isLink, -⟩
          cases isLink
          exact ⟨rfl, rfl⟩
        · rintro ⟨rfl, rfl⟩
          exact inRange
      rw [links, Child, childrenOf v, List.mem_append]
      by_cases fromSource : v = source <;> simp [Child, fromSource]
  | @deleted node _ _ deleted =>
      have linksNone : ¬ (Operation.removeNode node).Links graph.nodeCount v w := by
        rintro ⟨_, ⟨⟩, -⟩
      rw [deleted.child_iff]
      simp only [linksNone, or_false, ne_eq, Operation.removeNode.injEq]
      constructor
      · rintro ⟨vStays, wStays, child⟩
        exact ⟨child, Ne.symm vStays, Ne.symm wStays⟩
      · rintro ⟨child, vStays, wStays⟩
        exact ⟨Ne.symm vStays, Ne.symm wStays, child⟩
  | neither linksNone deletesNone same =>
      rw [same.child_eq]
      constructor
      · intro child
        refine Or.inl ⟨child, ?_, ?_⟩
        · exact fun isRemoval => Nat.not_le.mpr child.source_lt (deletesNone v isRemoval)
        · exact fun isRemoval => Nat.not_le.mpr child.dest_lt (deletesNone w isRemoval)
      · rintro (⟨child, -⟩ | links)
        · exact child
        · exact absurd links (linksNone v w)

/-! ### Runs of calls -/

/-- Somewhere in the run an edge from `v` to `w` is added, and neither end is removed later. -/
def Joins (ops : List Operation) (count : Nat) (v w : NodeId) : Prop :=
  ∃ before op after, ops = before ++ op :: after ∧ op.Links count v w ∧
    .removeNode v ∉ after ∧ .removeNode w ∉ after

theorem joins_cons : Joins (op :: rest) count v w ↔
    op.Links count v w ∧ .removeNode v ∉ rest ∧ .removeNode w ∉ rest ∨
      Joins rest count v w := by
  constructor
  · rintro ⟨before, link, after, split, links, vStays, wStays⟩
    cases before with
    | nil =>
        cases split
        exact Or.inl ⟨links, vStays, wStays⟩
    | cons first before =>
        cases split
        exact Or.inr ⟨before, link, after, rfl, links, vStays, wStays⟩
  · rintro (⟨links, vStays, wStays⟩ | ⟨before, link, after, rfl, links, vStays, wStays⟩)
    · exact ⟨[], op, rest, rfl, links, vStays, wStays⟩
    · exact ⟨op :: before, link, after, rfl, links, vStays, wStays⟩

theorem performAll_cons (graph : Graph) (op : Operation) (rest : List Operation) :
    graph.performAll (op :: rest) = (graph.perform op).performAll rest :=
  rfl

theorem nodeCount_performAll (graph : Graph) (ops : List Operation) :
    (graph.performAll ops).nodeCount = graph.nodeCount := by
  induction ops generalizing graph with
  | nil => rfl
  | cons op rest inductionHypothesis =>
      rw [performAll_cons, inductionHypothesis, nodeCount_perform]

/-- A removal mark is never taken back. -/
theorem isRemoved_performAll : (graph.performAll ops).isRemoved v = true ↔
    graph.isRemoved v = true ∨ .removeNode v ∈ ops ∧ v < graph.nodeCount := by
  induction ops generalizing graph with
  | nil => simp [performAll]
  | cons op rest inductionHypothesis =>
      rw [performAll_cons, inductionHypothesis, isRemoved_perform, nodeCount_perform,
        List.mem_cons, or_assoc, ← or_and_right, @eq_comm _ op]

/-- After a run there are the old edges of which it removes no end, and the edges that it adds
and of which it removes no end later. -/
theorem child_performAll : (graph.performAll ops).Child v w ↔
    graph.Child v w ∧ .removeNode v ∉ ops ∧ .removeNode w ∉ ops ∨
      Joins ops graph.nodeCount v w := by
  induction ops generalizing graph with
  | nil => simp [performAll, Joins]
  | cons op rest inductionHypothesis =>
      rw [performAll_cons, inductionHypothesis, child_perform, nodeCount_perform, joins_cons,
        List.mem_cons, List.mem_cons, @ne_comm _ op, @ne_comm _ op]
      tauto

/-! ### Removed nodes -/

/-- In a graph built by calls, a removed node has no children and is nobody's child just in case
no call gives it an edge after its removal, or an end of that edge is removed again. -/
theorem removed_stay_away_iff (count : Nat) (ops : List Operation) :
    (∀ v, ((ofNodeCount count).performAll ops).isRemoved v = true →
      ((ofNodeCount count).performAll ops).childrenOf v = [] ∧
        ∀ u, v ∉ ((ofNodeCount count).performAll ops).childrenOf u) ↔
    ∀ before after v w weight, ops = before ++ .addEdge v w weight :: after →
      v < count → w < count → .removeNode v ∈ before ∨ .removeNode w ∈ before →
        .removeNode v ∈ after ∨ .removeNode w ∈ after := by
  generalize isFinal : (ofNodeCount count).performAll ops = final
  have removedIff (v : NodeId) : final.isRemoved v = true ↔ .removeNode v ∈ ops ∧ v < count := by
    rw [← isFinal, isRemoved_performAll]
    simp
  have childIff (v w : NodeId) : final.Child v w ↔ Joins ops count v w := by
    rw [← isFinal, child_performAll]
    simp [Child, childrenOf]
  constructor
  · intro away before after v w weight split vInRange wInRange gone
    by_contra stays
    obtain ⟨vStays, wStays⟩ := not_or.mp stays
    have child : final.Child v w := (childIff v w).mpr
      ⟨before, _, after, split, ⟨weight, rfl, vInRange, wInRange⟩, vStays, wStays⟩
    rcases gone with vGone | wGone
    · have removed := (removedIff v).mpr ⟨by simp [split, vGone], vInRange⟩
      have bare := (away v removed).1
      rw [Child, bare] at child
      exact List.not_mem_nil child
    · have removed := (removedIff w).mpr ⟨by simp [split, wGone], wInRange⟩
      exact (away w removed).2 v child
  · intro removedAgain
    -- An edge that is left was added before the removal of either end, or else never.
    have untouched {v w : NodeId} (child : final.Child v w) :
        .removeNode v ∉ ops ∧ .removeNode w ∉ ops := by
      obtain ⟨before, op, after, rfl, ⟨weight, rfl, vInRange, wInRange⟩, vStays, wStays⟩ :=
        (childIff v w).mp child
      have early := mt (removedAgain before after v w weight rfl vInRange wInRange)
        (not_or.mpr ⟨vStays, wStays⟩)
      simp_all
    intro v removed
    have gone := ((removedIff v).mp removed).1
    refine ⟨?_, fun u child => (untouched child).2 gone⟩
    apply List.eq_nil_iff_forall_not_mem.mpr
    intro w child
    exact (untouched child).1 gone

/-- An edge from a removed node is added, and the node has a child. -/
theorem removed_comes_back :
    ¬ ∀ (count : Nat) (ops : List Operation) (v : NodeId),
      ((ofNodeCount count).performAll ops).isRemoved v = true →
        ((ofNodeCount count).performAll ops).childrenOf v = [] ∧
          ∀ u, v ∉ ((ofNodeCount count).performAll ops).childrenOf u := by
  intro away
  have bare := (away 3 [.removeNode 1, .addEdge 1 2 1.0] 1 (by decide +kernel)).1
  exact absurd bare (by decide +kernel)

end DagScheduling.Graph
