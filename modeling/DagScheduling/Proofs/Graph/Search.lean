/-
Module: DagScheduling.Proofs.Graph.Search
Purpose: The search finds exactly the nodes below a node, each once, so that their number
  measures how far a walk can still go and how much of the graph is left.
Main exports: Graph.mem_nodesBelow, Graph.nodup_nodesBelow, Graph.AcyclicBelow.mem_nodesBelow,
  Graph.reachableCount_lt_of_child, Graph.Deleted.reachableCount_add_one
-/
import DagScheduling.Graph.Reachability
import DagScheduling.Proofs.Graph.Paths
import Mathlib.Data.List.Nodup
import Mathlib.Data.List.Perm.Subperm

namespace DagScheduling.Graph

variable {graph later : Graph} {v w node leaf : NodeId} {unseen stack steps : List NodeId}

theorem mem_unseenChildren :
    w ∈ graph.unseenChildren node unseen ↔ w ∈ unseen ∧ graph.Child node w := by
  rw [unseenChildren, List.mem_filter, containsEdge_iff]

theorem mem_unseenOthers :
    w ∈ graph.unseenOthers node unseen ↔ w ∈ unseen ∧ ¬ graph.Child node w := by
  rw [unseenOthers, List.mem_filter, ← containsEdge_iff, Bool.not_eq_true', Bool.not_eq_true]

/-- An edge to a node of `region`. -/
private def ChildWithin (graph : Graph) (region : List NodeId) (v w : NodeId) : Prop :=
  graph.Child v w ∧ w ∈ region

/-- A path through unseen nodes is cut at its last unseen child of `node`: what
comes after stays outside these children. -/
private theorem cut_path {start : NodeId}
    (path : Relation.TransGen (ChildWithin graph unseen) start w)
    (onStack : start = node ∨ start ∈ stack) :
    w ∈ graph.unseenChildren node unseen ∨
      ∃ next ∈ graph.unseenChildren node unseen ++ stack,
        Relation.TransGen (ChildWithin graph (graph.unseenOthers node unseen)) next w := by
  induction path with
  | single edge =>
      rename_i last
      by_cases fresh : graph.Child node last
      · exact Or.inl (mem_unseenChildren.mpr ⟨edge.2, fresh⟩)
      · rcases onStack with same | waiting
        · exact absurd (same ▸ edge.1) fresh
        · have stays := mem_unseenOthers.mpr ⟨edge.2, fresh⟩
          exact Or.inr ⟨start, List.mem_append_right _ waiting, .single ⟨edge.1, stays⟩⟩
  | tail _ edge inductionHypothesis =>
      rename_i middle last _
      by_cases fresh : graph.Child node last
      · exact Or.inl (mem_unseenChildren.mpr ⟨edge.2, fresh⟩)
      · have stays := mem_unseenOthers.mpr ⟨edge.2, fresh⟩
        rcases inductionHypothesis with first | ⟨next, member, earlier⟩
        · exact Or.inr ⟨middle, List.mem_append_left _ first, .single ⟨edge.1, stays⟩⟩
        · exact Or.inr ⟨next, member, earlier.tail ⟨edge.1, stays⟩⟩

private theorem mem_explore (graph : Graph) (unseen stack : List NodeId) :
    w ∈ graph.explore unseen stack ↔
      ∃ start ∈ stack, Relation.TransGen (ChildWithin graph unseen) start w := by
  induction unseen, stack using explore.induct graph with
  | case1 unseen =>
      simp [explore]
  | case2 unseen node waiting fresh inductionHypothesis =>
      rw [explore, List.mem_append]
      have widen : ChildWithin graph (graph.unseenOthers node unseen) ≤
          ChildWithin graph unseen :=
        fun _ _ edge => ⟨edge.1, (mem_unseenOthers.mp edge.2).1⟩
      constructor
      · rintro (found | found)
        · have edge := mem_unseenChildren.mp found
          exact ⟨node, List.mem_cons_self, .single ⟨edge.2, edge.1⟩⟩
        · obtain ⟨start, member, path⟩ := inductionHypothesis.mp found
          have wide := Relation.TransGen.mono widen start w path
          rcases List.mem_append.mp member with first | later
          · have edge := mem_unseenChildren.mp first
            exact ⟨node, List.mem_cons_self, .head ⟨edge.2, edge.1⟩ wide⟩
          · exact ⟨start, List.mem_cons_of_mem _ later, wide⟩
      · rintro ⟨start, member, path⟩
        rcases cut_path path (List.mem_cons.mp member) with found | further
        · exact Or.inl found
        · exact Or.inr (inductionHypothesis.mpr further)

/-- The search from `v` finds the other nodes that a path from `v` leads to. -/
theorem mem_nodesBelow :
    w ∈ graph.nodesBelow v ↔ w ≠ v ∧ Relation.ReflTransGen graph.Child v w := by
  unfold nodesBelow
  split
  · rw [mem_explore]
    simp only [List.mem_singleton, exists_eq_left]
    constructor
    · intro path
      obtain ⟨_, -, edge⟩ := Relation.TransGen.tail'_iff.mp path
      have other := (List.mem_filter.mp edge.2).2
      have wide := Relation.TransGen.mono (fun _ _ edge => edge.1) v w path
      exact ⟨by simpa using other, wide.to_reflTransGen⟩
    · rintro ⟨other, path⟩
      -- A path that comes back to `v` is continued from there.
      induction path with
      | refl => exact absurd rfl other
      | tail _ child inductionHypothesis =>
          rename_i middle last _
          have within : ChildWithin graph
              ((List.range graph.nodeCount).filter (· != v)) middle last :=
            ⟨child, by simp [child.dest_lt, other]⟩
          by_cases back : middle = v
          · exact .single (back ▸ within)
          · exact (inductionHypothesis back).tail within
  · rename_i beyond
    constructor
    · intro member
      exact absurd member List.not_mem_nil
    · rintro ⟨other, path⟩
      rcases Relation.ReflTransGen.cases_head path with same | ⟨_, child, -⟩
      · exact absurd same.symm other
      · exact absurd child.source_lt beyond

private theorem nodup_explore (graph : Graph) (unseen stack : List NodeId)
    (distinct : unseen.Nodup) : (graph.explore unseen stack).Nodup := by
  induction unseen, stack using explore.induct graph with
  | case1 unseen =>
      simp [explore]
  | case2 unseen node waiting fresh inductionHypothesis =>
      rw [explore]
      apply List.Nodup.append (distinct.filter _) (inductionHypothesis (distinct.filter _))
      intro w first later
      obtain ⟨start, -, path⟩ := (mem_explore graph _ _).mp later
      obtain ⟨_, -, edge⟩ := Relation.TransGen.tail'_iff.mp path
      exact (mem_unseenOthers.mp edge.2).2 (mem_unseenChildren.mp first).2

theorem nodup_nodesBelow (graph : Graph) (v : NodeId) : (graph.nodesBelow v).Nodup := by
  unfold nodesBelow
  split
  · exact nodup_explore graph _ _ (List.nodup_range.filter _)
  · exact List.nodup_nil

theorem AcyclicBelow.mem_nodesBelow (acyclic : graph.AcyclicBelow v) :
    w ∈ graph.nodesBelow v ↔ graph.Below v w := by
  rw [Graph.mem_nodesBelow]
  constructor
  · rintro ⟨other, path⟩
    exact (Relation.reflTransGen_iff_eq_or_transGen.mp path).resolve_left other
  · intro below
    exact ⟨acyclic.ne_of_below below, below.to_reflTransGen⟩

/-- Whether `w` is below `v` is decided by a search from each child of `v`. -/
instance (graph : Graph) (v w : NodeId) : Decidable (graph.Below v w) :=
  decidable_of_iff (∃ u ∈ graph.childrenOf v, u = w ∨ w ∈ graph.nodesBelow u) <| by
    constructor
    · rintro ⟨u, child, same | found⟩
      · exact same ▸ .single child
      · exact .head' child (Graph.mem_nodesBelow.mp found).2
    · intro below
      obtain ⟨u, child, path⟩ := Relation.TransGen.head'_iff.mp below
      by_cases same : u = w
      · exact ⟨u, child, Or.inl same⟩
      · exact ⟨u, child, Or.inr (Graph.mem_nodesBelow.mpr ⟨Ne.symm same, path⟩)⟩

/-! ### The number of nodes below a node as a measure -/

theorem reachableCount_le (graph : Graph) (v : NodeId) :
    graph.reachableCount v ≤ graph.nodeCount := by
  have within : graph.nodesBelow v ⊆ List.range graph.nodeCount := by
    intro w member
    obtain ⟨other, path⟩ := Graph.mem_nodesBelow.mp member
    rcases Relation.ReflTransGen.cases_tail path with same | ⟨_, -, child⟩
    · exact absurd same other
    · exact List.mem_range.mpr child.dest_lt
  have bound := ((graph.nodup_nodesBelow v).subperm within).length_le
  rw [List.length_range] at bound
  exact bound

theorem SameShape.reachableCount_eq (same : SameShape graph later) (v : NodeId) :
    later.reachableCount v = graph.reachableCount v := by
  apply List.Perm.length_eq
  apply (List.perm_ext_iff_of_nodup (later.nodup_nodesBelow v) (graph.nodup_nodesBelow v)).mpr
  intro w
  rw [Graph.mem_nodesBelow, Graph.mem_nodesBelow, same.child_eq]

theorem reachableCount_of_bare (bare : graph.childrenOf v = []) : graph.reachableCount v = 0 := by
  apply List.length_eq_zero_iff.mpr
  apply List.eq_nil_iff_forall_not_mem.mpr
  intro w member
  obtain ⟨other, path⟩ := Graph.mem_nodesBelow.mp member
  have below := (Relation.reflTransGen_iff_eq_or_transGen.mp path).resolve_left other
  exact not_below bare below

/-- Along an edge fewer nodes are left below. -/
theorem reachableCount_lt_of_child (acyclic : graph.AcyclicBelow v) (child : graph.Child v w) :
    graph.reachableCount w < graph.reachableCount v := by
  have acyclicThere := acyclic.of_child child
  have distinct : (w :: graph.nodesBelow w).Nodup := by
    apply List.nodup_cons.mpr ⟨_, graph.nodup_nodesBelow w⟩
    intro member
    exact (Graph.mem_nodesBelow.mp member).1 rfl
  have within : w :: graph.nodesBelow w ⊆ graph.nodesBelow v := by
    intro u member
    rw [acyclic.mem_nodesBelow]
    rcases List.mem_cons.mp member with same | further
    · rw [same]
      exact .single child
    · exact .head child (acyclicThere.mem_nodesBelow.mp further)
  exact (distinct.subperm within).length_le

/-- A descent has at most as many steps as there are nodes below its start. -/
theorem Descent.length_le (descent : graph.Descent v steps leaf)
    (acyclic : graph.AcyclicBelow v) : steps.length ≤ graph.reachableCount v := by
  induction descent with
  | stay => exact Nat.zero_le _
  | step child _ inductionHypothesis =>
      have fewer := reachableCount_lt_of_child acyclic child
      have further := inductionHypothesis (acyclic.of_child child)
      rw [List.length_cons]
      omega

/-- Deleting a leaf takes exactly one node from below the nodes above it. -/
theorem Deleted.reachableCount_add_one (deleted : Deleted graph leaf later)
    (bare : graph.childrenOf leaf = []) (acyclic : graph.AcyclicBelow v)
    (below : graph.Below v leaf) : later.reachableCount v + 1 = graph.reachableCount v := by
  have acyclicLater := deleted.acyclicBelow acyclic
  have same : (graph.nodesBelow v).Perm (leaf :: later.nodesBelow v) := by
    apply (List.perm_ext_iff_of_nodup (graph.nodup_nodesBelow v) _).mpr
    · intro w
      rw [List.mem_cons, acyclic.mem_nodesBelow, acyclicLater.mem_nodesBelow,
        deleted.below_iff bare]
      by_cases isLeaf : w = leaf
      · simp [isLeaf, below]
      · simp [isLeaf]
    · apply List.nodup_cons.mpr ⟨_, later.nodup_nodesBelow v⟩
      intro member
      rw [acyclicLater.mem_nodesBelow, deleted.below_iff bare] at member
      exact member.2 rfl
  exact same.length_eq.symm

end DagScheduling.Graph
