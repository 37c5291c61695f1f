/-
Module: DagScheduling.Proofs.Graph.Removals
Purpose: What is below a node, and what is left of it once another node is removed, whatever
  cycles, loops and repeated edges there are: that to which some path leads round the other node.
Main exports: Graph.Route, Graph.mem_nodesBelow_iff_route, Graph.Deleted.route_iff,
  Graph.Deleted.reachableCount_lt, Graph.Deleted.reachableCount_eq_of_unreached,
  Graph.perform_removeNode_comm, Graph.reachableCount_counts
-/
import DagScheduling.Proofs.Graph.Marking
import DagScheduling.Proofs.Graph.Operations
import Mathlib.Data.Set.Card

namespace DagScheduling.Graph

/-- Edges lead from a node along `steps` to the last of them, or to the node
itself if there are none. -/
inductive Route (graph : Graph) : NodeId → List NodeId → NodeId → Prop
  | stay {v : NodeId} : Route graph v [] v
  | step {v next w : NodeId} {steps : List NodeId} (child : graph.Child v next)
      (rest : Route graph next steps w) : Route graph v (next :: steps) w

variable {graph later : Graph} {v w x y u : NodeId} {steps : List NodeId}

/-! ### Routes -/

namespace Route

theorem concat (route : graph.Route v steps w) (child : graph.Child w x) :
    graph.Route v (steps ++ [x]) x := by
  induction route with
  | stay => exact .step child .stay
  | step first _ inductionHypothesis => exact .step first (inductionHypothesis child)

theorem path (route : graph.Route v steps w) : Relation.ReflTransGen graph.Child v w := by
  induction route with
  | stay => exact .refl
  | step child _ inductionHypothesis => exact .head child inductionHypothesis

/-- A route that passes a node leads to it. -/
theorem exists_of_mem (route : graph.Route v steps w) (passed : x ∈ steps) :
    ∃ front, graph.Route v front x := by
  induction route with
  | stay => exact absurd passed List.not_mem_nil
  | step child _ inductionHypothesis =>
      rcases List.mem_cons.mp passed with here | further
      · exact ⟨[x], .step (here ▸ child) .stay⟩
      · obtain ⟨front, rest⟩ := inductionHypothesis further
        exact ⟨_, .step child rest⟩

/-- A route that passes a leaf ends there. -/
theorem eq_of_mem (route : graph.Route v steps w) (passed : x ∈ steps)
    (bare : graph.childrenOf x = []) : w = x := by
  induction route with
  | stay => exact absurd passed List.not_mem_nil
  | step child rest inductionHypothesis =>
      rcases List.mem_cons.mp passed with here | further
      · cases rest with
        | stay => exact here.symm
        | step beyond _ => exact absurd (.single (here ▸ beyond)) (not_below bare)
      · exact inductionHypothesis further

end Route

theorem exists_route_iff :
    (∃ steps, graph.Route v steps w) ↔ Relation.ReflTransGen graph.Child v w := by
  constructor
  · rintro ⟨steps, route⟩
    exact route.path
  · intro path
    induction path with
    | refl => exact ⟨[], .stay⟩
    | tail _ child inductionHypothesis =>
        obtain ⟨steps, route⟩ := inductionHypothesis
        exact ⟨_, route.concat child⟩

theorem mem_nodesBelow_iff_route :
    w ∈ graph.nodesBelow v ↔ w ≠ v ∧ ∃ steps, graph.Route v steps w := by
  rw [Graph.mem_nodesBelow, exists_route_iff]

/-- What the search finds is counted without repetition. -/
theorem encard_eq_reachableCount {region : Set NodeId}
    (found : ∀ w, w ∈ region ↔ w ∈ graph.nodesBelow v) :
    region.encard = graph.reachableCount v := by
  have same : region = (graph.nodesBelow v).toFinset := by
    ext w
    simp [found]
  rw [same, Set.encard_coe_eq_coe_finsetCard,
    List.toFinset_card_of_nodup (graph.nodup_nodesBelow v), reachableCount]

/-! ### One removal -/

namespace Deleted

/-- From another node the routes left are those round the node removed. -/
theorem route_iff (deleted : Deleted graph x later) (away : v ≠ x) :
    later.Route v steps w ↔ graph.Route v steps w ∧ x ∉ steps := by
  constructor
  · intro route
    induction route with
    | stay => exact ⟨.stay, List.not_mem_nil⟩
    | step child _ inductionHypothesis =>
        obtain ⟨-, nextAway, isChild⟩ := deleted.child_iff.mp child
        obtain ⟨rest, round⟩ := inductionHypothesis nextAway
        exact ⟨.step isChild rest, List.not_mem_cons_of_ne_of_not_mem nextAway.symm round⟩
  · rintro ⟨route, round⟩
    induction route with
    | stay => exact .stay
    | step child _ inductionHypothesis =>
        have nextAway := Ne.symm (List.ne_of_not_mem_cons round)
        exact .step (deleted.child_iff.mpr ⟨away, nextAway, child⟩)
          (inductionHypothesis nextAway (List.not_mem_of_not_mem_cons round))

theorem mem_nodesBelow_iff (deleted : Deleted graph x later) (away : v ≠ x) :
    w ∈ later.nodesBelow v ↔ w ≠ v ∧ ∃ steps, graph.Route v steps w ∧ x ∉ steps := by
  rw [mem_nodesBelow_iff_route]
  simp only [deleted.route_iff away]

theorem nodesBelow_subset (deleted : Deleted graph x later) (away : v ≠ x) :
    later.nodesBelow v ⊆ graph.nodesBelow v := by
  intro w member
  obtain ⟨other, steps, route, -⟩ := (deleted.mem_nodesBelow_iff away).mp member
  exact mem_nodesBelow_iff_route.mpr ⟨other, steps, route⟩

theorem nodup_cons_nodesBelow (deleted : Deleted graph x later) (v : NodeId) :
    (x :: later.nodesBelow v).Nodup := by
  apply List.nodup_cons.mpr ⟨_, later.nodup_nodesBelow v⟩
  intro member
  obtain ⟨other, path⟩ := Graph.mem_nodesBelow.mp member
  obtain ⟨_, -, child⟩ := (Relation.ReflTransGen.cases_tail path).resolve_left other
  exact (deleted.child_iff.mp child).2.1 rfl

/-- The node removed is gone from below those that led to it, and perhaps more with it. -/
theorem reachableCount_lt (deleted : Deleted graph x later) (away : v ≠ x)
    (reached : ∃ steps, graph.Route v steps x) :
    later.reachableCount v < graph.reachableCount v := by
  have within : x :: later.nodesBelow v ⊆ graph.nodesBelow v :=
    List.cons_subset.mpr
      ⟨mem_nodesBelow_iff_route.mpr ⟨away.symm, reached⟩, deleted.nodesBelow_subset away⟩
  exact ((deleted.nodup_cons_nodesBelow v).subperm within).length_le

/-- Removing a node that is not below another leaves all that is below that one. -/
theorem reachableCount_eq_of_unreached (deleted : Deleted graph x later) (away : v ≠ x)
    (unreached : ¬ ∃ steps, graph.Route v steps x) :
    later.reachableCount v = graph.reachableCount v := by
  apply List.Perm.length_eq
  apply (List.perm_ext_iff_of_nodup (later.nodup_nodesBelow v) (graph.nodup_nodesBelow v)).mpr
  intro w
  refine ⟨fun member => deleted.nodesBelow_subset away member, ?_⟩
  intro member
  obtain ⟨other, steps, route⟩ := mem_nodesBelow_iff_route.mp member
  exact (deleted.mem_nodesBelow_iff away).mpr
    ⟨other, steps, route, fun passed => unreached (route.exists_of_mem passed)⟩

/-- Removing a leaf takes the leaf alone, also where there are cycles elsewhere. -/
theorem reachableCount_of_leaf (deleted : Deleted graph x later) (away : v ≠ x)
    (reached : ∃ steps, graph.Route v steps x) (bare : graph.childrenOf x = []) :
    later.reachableCount v + 1 = graph.reachableCount v := by
  have same : (x :: later.nodesBelow v).Perm (graph.nodesBelow v) := by
    apply (List.perm_ext_iff_of_nodup (deleted.nodup_cons_nodesBelow v)
      (graph.nodup_nodesBelow v)).mpr
    intro w
    rw [List.mem_cons, deleted.mem_nodesBelow_iff away, mem_nodesBelow_iff_route]
    constructor
    · rintro (isLeaf | ⟨other, steps, route, -⟩)
      · exact ⟨isLeaf ▸ away.symm, isLeaf ▸ reached⟩
      · exact ⟨other, steps, route⟩
    · rintro ⟨other, steps, route⟩
      by_cases passed : x ∈ steps
      · exact Or.inl (route.eq_of_mem passed bare)
      · exact Or.inr ⟨other, steps, route, passed⟩
  exact same.length_eq

end Deleted

/-! ### Two removals -/

/-- A removal that is refused takes nothing, and there is nothing for it to take. -/
theorem edgesOf_perform_removeNode (graph : Graph) (x u : NodeId) :
    (graph.perform (.removeNode x)).edgesOf u =
      if u = x then [] else (graph.edgesOf u).filter fun edge => edge.dest != x := by
  by_cases inRange : x < graph.nodeCount
  · obtain ⟨later, removed, -, edges⟩ := graph.removeNode_ok inRange
    rw [perform, Operation.apply, removed]
    exact edges u
  · have refused : graph.perform (.removeNode x) = graph := by
      rw [perform, Operation.apply, removeNode, if_neg inRange]
    rw [refused]
    split
    · rename_i same
      rw [same]
      exact edgesOf_of_nodeCount_le (Nat.le_of_not_lt inRange)
    · symm
      apply List.filter_eq_self.mpr
      intro edge member
      have there := dest_lt_of_mem_edgesOf member
      exact bne_iff_ne.mpr fun same => inRange (same ▸ there)

theorem perform_removeNode_comm (graph : Graph) (x y : NodeId) :
    (graph.perform (.removeNode x)).perform (.removeNode y) =
      (graph.perform (.removeNode y)).perform (.removeNode x) := by
  apply eq_of_views
  · simp only [nodeCount_perform]
  · intro u
    simp only [edgesOf_perform_removeNode]
    by_cases isX : u = x
    · simp [isX]
    · by_cases isY : u = y
      · simp [isY]
      · simp only [isX, isY, if_false]
        exact List.filter_comm _ _ _
  · intro u
    rw [Bool.eq_iff_iff]
    simp only [isRemoved_perform, nodeCount_perform]
    tauto

/-! ### Every graph -/

/-- In every graph the search from a node comes to its end and has then counted the other nodes
to which a path leads; there are none where there is no such node. Removing another node leaves
those to which a path leads round it. So fewer are left if the node removed was among them, one
fewer if it was a leaf, and otherwise as many as before. Of two removals it does not matter which
comes first. -/
theorem reachableCount_counts (graph : Graph) (v : NodeId) :
    {w | w ≠ v ∧ ∃ steps, graph.Route v steps w}.encard = graph.reachableCount v ∧
      (graph.nodeCount ≤ v → graph.reachableCount v = 0) ∧
      (v < graph.nodeCount →
        (∀ pops ≤ graph.reachableCount v, (Marking.after graph v pops).stack ≠ []) ∧
        (Marking.after graph v (graph.reachableCount v + 1)).stack = [] ∧
        (Marking.after graph v (graph.reachableCount v + 1)).count = graph.reachableCount v) ∧
      (∀ x < graph.nodeCount, x ≠ v → ∃ later, graph.removeNode x = .ok later ∧
        {w | w ≠ v ∧ ∃ steps, graph.Route v steps w ∧ x ∉ steps}.encard =
          later.reachableCount v ∧
        ((∃ steps, graph.Route v steps x) →
          later.reachableCount v < graph.reachableCount v) ∧
        ((¬ ∃ steps, graph.Route v steps x) →
          later.reachableCount v = graph.reachableCount v) ∧
        ((∃ steps, graph.Route v steps x) → graph.childrenOf x = [] →
          later.reachableCount v + 1 = graph.reachableCount v)) ∧
      ∀ x y, (graph.perform (.removeNode x)).perform (.removeNode y) =
        (graph.perform (.removeNode y)).perform (.removeNode x) := by
  refine ⟨?counted, ?beyond, ?ends, ?removal, graph.perform_removeNode_comm⟩
  case counted => exact encard_eq_reachableCount fun _ => mem_nodesBelow_iff_route.symm
  case beyond =>
    intro beyond
    exact reachableCount_of_bare (childrenOf_of_nodeCount_le beyond)
  case ends =>
    intro inRange
    obtain ⟨empty, count, more⟩ := Marking.ends inRange
    exact ⟨more, empty, count⟩
  case removal =>
    intro x inRange other
    obtain ⟨later, removed, deleted, -⟩ := graph.removeNode_ok inRange
    have away : v ≠ x := Ne.symm other
    exact ⟨later, removed,
      encard_eq_reachableCount fun _ => (deleted.mem_nodesBelow_iff away).symm,
      deleted.reachableCount_lt away, deleted.reachableCount_eq_of_unreached away,
      deleted.reachableCount_of_leaf away⟩

/-- A cycle, a loop and a repeated edge, and node 3 without any edge from it. -/
private def tangle : Graph :=
  (ofNodeCount 4).performAll
    [.addEdge 0 1 1.0, .addEdge 0 3 1.0, .addEdge 1 2 1.0, .addEdge 1 1 1.0, .addEdge 1 2 1.0,
      .addEdge 2 0 1.0]

/-- Node 3 is popped first, and node 2 is met once. -/
example : Marking.after tangle 0 4 = { marked := [2, 3, 1, 0], stack := [], count := 3 } := by
  decide

/-- Removing the leaf takes the leaf alone, removing node 1 takes more, and below the
leaf, where nothing is, nothing is lost. -/
theorem reachableCount_counts_tangle :
    tangle.reachableCount 0 = 3 ∧
      (∃ later, tangle.removeNode 3 = .ok later ∧ later.reachableCount 0 + 1 = 3) ∧
      (∃ later, tangle.removeNode 1 = .ok later ∧ later.reachableCount 0 < 3) ∧
      ∃ later, tangle.removeNode 1 = .ok later ∧ later.reachableCount 3 = 0 := by
  have child {v w : NodeId} (listed : w ∈ tangle.childrenOf v) : tangle.Route v [w] w :=
    .step listed .stay
  have counted : tangle.reachableCount 0 = 3 := by decide +kernel
  have bare : tangle.childrenOf 3 = [] := by decide
  have alone : ¬ ∃ steps, tangle.Route 3 steps 1 := by
    rw [exists_route_iff]
    intro path
    rcases Relation.ReflTransGen.cases_head path with same | ⟨next, first, -⟩
    · exact absurd same (by decide)
    · exact absurd (.single first) (not_below bare)
  obtain ⟨-, -, -, removal, -⟩ := reachableCount_counts tangle 0
  obtain ⟨-, -, -, removalBelowLeaf, -⟩ := reachableCount_counts tangle 3
  obtain ⟨withoutLeaf, leafRemoved, -, -, -, oneFewer⟩ := removal 3 (by decide) (by decide)
  obtain ⟨without, removed, -, fewer, -, -⟩ := removal 1 (by decide) (by decide)
  obtain ⟨other, removedOther, -, -, asBefore, -⟩ := removalBelowLeaf 1 (by decide) (by decide)
  refine ⟨counted, ⟨withoutLeaf, leafRemoved, ?_⟩, ⟨without, removed, ?_⟩, other, removedOther, ?_⟩
  · rw [← counted]
    exact oneFewer ⟨_, child (by decide)⟩ bare
  · rw [← counted]
    exact fewer ⟨_, child (by decide)⟩
  · rw [asBefore alone, reachableCount_of_bare bare]

end DagScheduling.Graph
