/-
Module: DagScheduling.Proofs.Graph.Edits
Purpose: What each operation on a graph does to its node count, its edge lists and its
  removal marks; every other fact about graphs is derived from these three views.
Main exports: Graph.Child, Graph.eq_of_views, Graph.SameShape, Graph.Deleted, Graph.addEdge_ok,
  Graph.setWeight_ok, Graph.removeNode_ok, Graph.sameShape_weighByFanOut
-/
import DagScheduling.Graph.Basic

namespace DagScheduling.Graph

variable {graph later : Graph} {v w : NodeId}

/-- There is an edge from `v` to `w`. -/
def Child (graph : Graph) (v w : NodeId) : Prop :=
  w ∈ graph.childrenOf v

instance (graph : Graph) (v w : NodeId) : Decidable (graph.Child v w) :=
  inferInstanceAs (Decidable (w ∈ graph.childrenOf v))

theorem edgesOf_eq (graph : Graph) (v : NodeId) :
    graph.edgesOf v = (graph.nodes[v]?.map Node.edges).getD [] := by
  unfold edgesOf
  cases graph.nodes[v]? <;> rfl

theorem isRemoved_eq (graph : Graph) (v : NodeId) :
    graph.isRemoved v = (graph.nodes[v]?.map Node.removed).getD false := by
  unfold isRemoved
  cases graph.nodes[v]? <;> rfl

/-- A number without a node has no edges. -/
theorem edgesOf_of_nodeCount_le (beyond : graph.nodeCount ≤ v) : graph.edgesOf v = [] := by
  rw [edgesOf_eq, Array.getElem?_eq_none beyond]
  rfl

theorem childrenOf_of_nodeCount_le (beyond : graph.nodeCount ≤ v) : graph.childrenOf v = [] := by
  rw [childrenOf, edgesOf_of_nodeCount_le beyond]
  rfl

theorem fanOut_eq_length (graph : Graph) (v : NodeId) :
    graph.fanOut v = (graph.childrenOf v).length := by
  rw [fanOut, childrenOf, List.length_map]

theorem dest_lt_of_mem_edgesOf {edge : Edge} (member : edge ∈ graph.edgesOf v) :
    edge.dest < graph.nodeCount := by
  rw [edgesOf_eq] at member
  by_cases inRange : v < graph.nodes.size
  · rw [Array.getElem?_eq_getElem inRange] at member
    exact graph.dest_lt v inRange edge member
  · rw [Array.getElem?_eq_none (Nat.le_of_not_lt inRange)] at member
    exact absurd member List.not_mem_nil

namespace Child

theorem source_lt (child : graph.Child v w) : v < graph.nodeCount := by
  apply Nat.lt_of_not_le
  intro beyond
  rw [Child, childrenOf_of_nodeCount_le beyond] at child
  exact List.not_mem_nil child

theorem dest_lt (child : graph.Child v w) : w < graph.nodeCount := by
  obtain ⟨edge, member, same⟩ := List.mem_map.mp child
  rw [← same]
  exact dest_lt_of_mem_edgesOf member

theorem containsEdge (child : graph.Child v w) : graph.containsEdge v w = true := by
  obtain ⟨edge, member, same⟩ := List.mem_map.mp child
  exact List.any_eq_true.mpr ⟨edge, member, beq_iff_eq.mpr same⟩

end Child

theorem containsEdge_iff : graph.containsEdge v w = true ↔ graph.Child v w := by
  constructor
  · intro found
    obtain ⟨edge, member, same⟩ := List.any_eq_true.mp found
    exact List.mem_map.mpr ⟨edge, member, beq_iff_eq.mp same⟩
  · exact Child.containsEdge

/-- Node count, edge lists and removal marks are all there is to a graph. -/
theorem eq_of_views (nodeCount : later.nodeCount = graph.nodeCount)
    (edgesOf : ∀ v, later.edgesOf v = graph.edgesOf v)
    (isRemoved : ∀ v, later.isRemoved v = graph.isRemoved v) : later = graph := by
  apply Graph.ext
  apply Array.ext nodeCount
  intro v inLater inGraph
  have sameEdges := edgesOf v
  rw [edgesOf_eq, edgesOf_eq, Array.getElem?_eq_getElem inLater,
    Array.getElem?_eq_getElem inGraph] at sameEdges
  have sameRemoved := isRemoved v
  rw [isRemoved_eq, isRemoved_eq, Array.getElem?_eq_getElem inLater,
    Array.getElem?_eq_getElem inGraph] at sameRemoved
  have edges : later.nodes[v].edges = graph.nodes[v].edges := sameEdges
  have removed : later.nodes[v].removed = graph.nodes[v].removed := sameRemoved
  cases node : later.nodes[v]
  cases other : graph.nodes[v]
  simp only [node, other] at edges removed
  rw [edges, removed]

/-! ### New graphs and new edges -/

@[simp] theorem nodeCount_ofNodeCount (count : Nat) : (ofNodeCount count).nodeCount = count :=
  Array.size_replicate

@[simp] theorem edgesOf_ofNodeCount (count : Nat) (v : NodeId) :
    (ofNodeCount count).edgesOf v = [] := by
  rw [edgesOf_eq, ofNodeCount, Array.getElem?_replicate]
  split <;> rfl

@[simp] theorem isRemoved_ofNodeCount (count : Nat) (v : NodeId) :
    (ofNodeCount count).isRemoved v = false := by
  rw [isRemoved_eq, ofNodeCount, Array.getElem?_replicate]
  split <;> rfl

section WithEdges

variable {change : List Edge → List Edge}
  {keeps : ∀ edges : List Edge, (∀ edge ∈ edges, edge.dest < graph.nodeCount) →
    ∀ edge ∈ change edges, edge.dest < graph.nodeCount}

theorem nodeCount_withEdges : (graph.withEdges v change keeps).nodeCount = graph.nodeCount :=
  Array.size_modify

theorem isRemoved_withEdges (u : NodeId) :
    (graph.withEdges v change keeps).isRemoved u = graph.isRemoved u := by
  rw [isRemoved_eq, isRemoved_eq, withEdges, Array.getElem?_modify]
  split
  · cases graph.nodes[u]? <;> rfl
  · rfl

theorem edgesOf_withEdges (inRange : v < graph.nodeCount) (u : NodeId) :
    (graph.withEdges v change keeps).edgesOf u =
      if u = v then change (graph.edgesOf u) else graph.edgesOf u := by
  rw [edgesOf_eq, edgesOf_eq, withEdges, Array.getElem?_modify]
  by_cases same : v = u
  · subst same
    rw [if_pos rfl, if_pos rfl, Array.getElem?_eq_getElem inRange]
    rfl
  · rw [if_neg same, if_neg (Ne.symm same)]

end WithEdges

/-- Between two nodes of the graph an edge can always be added, and goes to
the end of its source's list. -/
theorem addEdge_ok (graph : Graph) {source dest : NodeId} (weight : Float)
    (sourceInRange : source < graph.nodeCount) (destInRange : dest < graph.nodeCount) :
    ∃ later, graph.addEdge source dest weight = .ok later ∧
      later.nodeCount = graph.nodeCount ∧
      (∀ u, later.isRemoved u = graph.isRemoved u) ∧
      ∀ u, later.edgesOf u =
        graph.edgesOf u ++ if u = source then [{ dest := dest, weight := weight }] else [] := by
  rw [addEdge, if_pos sourceInRange, dif_pos destInRange]
  refine ⟨_, rfl, nodeCount_withEdges, isRemoved_withEdges, ?_⟩
  intro u
  rw [edgesOf_withEdges sourceInRange]
  split
  · rfl
  · rw [List.append_nil]

/-! ### Graphs of one shape -/

/-- Two graphs differ at most in the weights of their edges. -/
structure SameShape (first second : Graph) : Prop where
  nodeCount : second.nodeCount = first.nodeCount
  childrenOf : ∀ v, second.childrenOf v = first.childrenOf v
  isRemoved : ∀ v, second.isRemoved v = first.isRemoved v

namespace SameShape

theorem refl (graph : Graph) : SameShape graph graph :=
  ⟨rfl, fun _ => rfl, fun _ => rfl⟩

theorem symm {first second : Graph} (same : SameShape first second) : SameShape second first :=
  ⟨same.nodeCount.symm, fun v => (same.childrenOf v).symm, fun v => (same.isRemoved v).symm⟩

theorem trans {first second third : Graph} (one : SameShape first second)
    (two : SameShape second third) : SameShape first third :=
  ⟨two.nodeCount.trans one.nodeCount, fun v => (two.childrenOf v).trans (one.childrenOf v),
    fun v => (two.isRemoved v).trans (one.isRemoved v)⟩

theorem child_eq {first second : Graph} (same : SameShape first second) :
    second.Child = first.Child := by
  funext v w
  rw [Child, Child, same.childrenOf v]

end SameShape

/-- The weight of an edge that is there can always be replaced. -/
theorem setWeight_ok (weight : Float) (child : graph.Child v w) :
    ∃ later, graph.setWeight v w weight = .ok later ∧ SameShape graph later := by
  rw [setWeight, if_pos child.source_lt, if_pos child.containsEdge]
  refine ⟨_, rfl, nodeCount_withEdges, ?_, isRemoved_withEdges⟩
  intro u
  rw [childrenOf, edgesOf_withEdges child.source_lt]
  split
  · exact map_dest_reweighFirst w weight (graph.edgesOf u)
  · rfl

theorem edgesOf_setWeight {weight : Float} (isSet : graph.setWeight v w weight = .ok later)
    (u : NodeId) : later.edgesOf u =
      if u = v then reweighFirst w weight (graph.edgesOf u) else graph.edgesOf u := by
  unfold setWeight at isSet
  split at isSet
  · rename_i inRange
    split at isSet
    · cases isSet
      exact edgesOf_withEdges inRange u
    · cases isSet
  · cases isSet

theorem child_of_setWeight {weight : Float} (isSet : graph.setWeight v w weight = .ok later) :
    graph.Child v w := by
  unfold setWeight at isSet
  split at isSet
  · split at isSet
    · rename_i contained
      exact containsEdge_iff.mp contained
    · cases isSet
  · cases isSet

theorem sameShape_of_setWeight {weight : Float} (isSet : graph.setWeight v w weight = .ok later) :
    SameShape graph later := by
  obtain ⟨_, isOther, same⟩ := setWeight_ok weight (child_of_setWeight isSet)
  cases isSet.symm.trans isOther
  exact same

theorem edgesOf_weighByFanOut (graph : Graph) (base multiplier : Float) (v : NodeId) :
    (graph.weighByFanOut base multiplier).edgesOf v = (graph.edgesOf v).map fun edge =>
      { edge with weight := base + multiplier * Float.ofNat (graph.fanOut edge.dest) } := by
  rw [edgesOf_eq, edgesOf_eq, weighByFanOut, Array.getElem?_map]
  cases graph.nodes[v]? <;> rfl

theorem sameShape_weighByFanOut (graph : Graph) (base multiplier : Float) :
    SameShape graph (graph.weighByFanOut base multiplier) := by
  refine ⟨Array.size_map, ?_, ?_⟩
  · intro v
    rw [childrenOf, childrenOf, edgesOf_eq, edgesOf_eq, weighByFanOut, Array.getElem?_map]
    cases graph.nodes[v]? with
    | none => rfl
    | some node =>
        show (node.edges.map _).map Edge.dest = node.edges.map Edge.dest
        rw [List.map_map]
        rfl
  · intro v
    rw [isRemoved_eq, isRemoved_eq, weighByFanOut, Array.getElem?_map]
    cases graph.nodes[v]? <;> rfl

/-! ### Deletion -/

/-- `later` is what deleting `v` leaves of `graph`, whatever the weights. -/
structure Deleted (graph : Graph) (v : NodeId) (later : Graph) : Prop where
  nodeCount : later.nodeCount = graph.nodeCount
  childrenOf : ∀ u, later.childrenOf u =
    if u = v then [] else (graph.childrenOf u).filter (· != v)
  isRemoved : ∀ u, later.isRemoved u = (u == v || graph.isRemoved u)

/-- Node `u` once `v` is deleted. -/
private def nodeWithout (v u : NodeId) (node : Node) : Node :=
  if u = v then { edges := [], removed := true }
  else { node with edges := node.edges.filter fun edge => edge.dest != v }

private theorem getElem?_without (nodes : Array Node) (v u : NodeId) :
    ((nodes.map fun node =>
      { node with edges := node.edges.filter fun edge => edge.dest != v }).modify v
        fun _ => { edges := [], removed := true })[u]? = nodes[u]?.map (nodeWithout v u) := by
  rw [Array.getElem?_modify, Array.getElem?_map]
  by_cases same : v = u
  · subst same
    rw [if_pos rfl, Option.map_map]
    congr 1
    funext node
    exact (if_pos rfl).symm
  · rw [if_neg same]
    congr 1
    funext node
    exact (if_neg (Ne.symm same)).symm

/-- Every node of the graph can be removed. The edges of the others that do
not end at it stay as they are. -/
theorem removeNode_ok (graph : Graph) (inRange : v < graph.nodeCount) :
    ∃ later, graph.removeNode v = .ok later ∧ Deleted graph v later ∧
      ∀ u, later.edgesOf u =
        if u = v then [] else (graph.edgesOf u).filter fun edge => edge.dest != v := by
  have edges (u : NodeId) : ((graph.nodes[u]?.map (nodeWithout v u)).map Node.edges).getD [] =
      if u = v then [] else (graph.edgesOf u).filter fun edge => edge.dest != v := by
    rw [edgesOf_eq]
    cases graph.nodes[u]? <;> by_cases same : u = v <;> simp [same, nodeWithout]
  rw [removeNode, if_pos inRange]
  refine ⟨_, rfl, ⟨?_, ?_, ?_⟩, ?_⟩
  · rw [nodeCount, Array.size_modify, Array.size_map]
    rfl
  · intro u
    rw [childrenOf, edgesOf_eq, getElem?_without, edges, childrenOf]
    split
    · rfl
    · rw [List.filter_map]
      rfl
  · intro u
    rw [isRemoved_eq, getElem?_without, isRemoved_eq]
    by_cases same : u = v
    · subst same
      rw [Array.getElem?_eq_getElem inRange]
      simp [nodeWithout]
    · cases graph.nodes[u]? <;> simp [same, nodeWithout]
  · intro u
    rw [edgesOf_eq, getElem?_without, edges]

theorem lt_of_removeNode (removed : graph.removeNode v = .ok later) : v < graph.nodeCount := by
  unfold removeNode at removed
  split at removed
  · assumption
  · cases removed

theorem deleted_of_removeNode (removed : graph.removeNode v = .ok later) :
    Deleted graph v later := by
  obtain ⟨_, isOther, deleted, -⟩ := graph.removeNode_ok (lt_of_removeNode removed)
  cases removed.symm.trans isOther
  exact deleted

end DagScheduling.Graph
