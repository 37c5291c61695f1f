/-
Module: DagScheduling.Proofs.Graph.Paths
Purpose: The nodes below a node, graphs without a cycle below it, and what the deletion of a
  leaf changes about both.
Main exports: Graph.Below, Graph.AcyclicBelow, Graph.Descent, Graph.Deleted.below_iff
-/
import DagScheduling.Proofs.Graph.Edits
import Mathlib.Logic.Relation

namespace DagScheduling.Graph

variable {graph later : Graph} {v w leaf : NodeId} {steps : List NodeId}

/-- A path of at least one edge leads from `v` to `w`. -/
def Below (graph : Graph) : NodeId → NodeId → Prop :=
  Relation.TransGen graph.Child

/-- No cycle can be reached from `v`. -/
def AcyclicBelow (graph : Graph) (v : NodeId) : Prop :=
  ∀ w, Relation.ReflTransGen graph.Child v w → ¬ graph.Below w w

namespace Below

theorem of_child {u : NodeId} (above : v = u ∨ graph.Below u v) (child : graph.Child v w) :
    graph.Below u w := by
  rcases above with same | below
  · rw [same] at child
    exact .single child
  · exact below.tail child

theorem lt_nodeCount (below : graph.Below v w) : w < graph.nodeCount := by
  obtain ⟨parent, -, child⟩ := Relation.TransGen.tail'_iff.mp below
  exact child.dest_lt

end Below

/-- Nothing is below a node without children. -/
theorem not_below (bare : graph.childrenOf v = []) : ¬ graph.Below v w := by
  intro below
  obtain ⟨u, child, -⟩ := Relation.TransGen.head'_iff.mp below
  rw [Child, bare] at child
  exact List.not_mem_nil child

namespace AcyclicBelow

theorem ne_of_below (acyclic : graph.AcyclicBelow v) (below : graph.Below v w) : w ≠ v := by
  intro same
  subst same
  exact acyclic w .refl below

theorem of_below (acyclic : graph.AcyclicBelow v) (below : graph.Below v w) :
    graph.AcyclicBelow w :=
  fun u path => acyclic u (below.to_reflTransGen.trans path)

theorem of_child (acyclic : graph.AcyclicBelow v) (child : graph.Child v w) :
    graph.AcyclicBelow w :=
  acyclic.of_below (.single child)

/-- A graph has no cycle below a node of a region that no edge leaves if the
edges of the region lead to greater numbers only. -/
theorem of_ascending (region : List NodeId) (start : v ∈ region)
    (ascending : ∀ u ∈ region, ∀ child ∈ graph.childrenOf u, child ∈ region ∧ u < child) :
    graph.AcyclicBelow v := by
  have inside : ∀ {u w}, Relation.ReflTransGen graph.Child u w → u ∈ region → w ∈ region := by
    intro u w path member
    induction path with
    | refl => exact member
    | tail _ child inductionHypothesis => exact (ascending _ inductionHypothesis _ child).1
  have greater : ∀ {u w}, graph.Below u w → u ∈ region → u < w := by
    intro u w below member
    induction below with
    | single child => exact (ascending u member _ child).2
    | tail earlier child inductionHypothesis =>
        have further := ascending _ (inside earlier.to_reflTransGen member) _ child
        exact Nat.lt_trans inductionHypothesis further.2
  intro w path cycle
  exact Nat.lt_irrefl w (greater cycle (inside path start))

end AcyclicBelow

namespace SameShape

theorem below_eq (same : SameShape graph later) : later.Below = graph.Below := by
  unfold Below
  rw [same.child_eq]

theorem acyclicBelow (same : SameShape graph later) (acyclic : graph.AcyclicBelow v) :
    later.AcyclicBelow v := by
  unfold AcyclicBelow
  rw [same.below_eq, same.child_eq]
  exact acyclic

end SameShape

/-! ### Deleting a leaf -/

namespace Deleted

theorem of_sameShape {other : Graph} (deleted : Deleted other leaf later)
    (same : SameShape graph other) : Deleted graph leaf later where
  nodeCount := deleted.nodeCount.trans same.nodeCount
  childrenOf u := by rw [deleted.childrenOf u, same.childrenOf u]
  isRemoved u := by rw [deleted.isRemoved u, same.isRemoved u]

theorem child_iff (deleted : Deleted graph leaf later) :
    later.Child v w ↔ v ≠ leaf ∧ w ≠ leaf ∧ graph.Child v w := by
  rw [Child, Child, deleted.childrenOf v]
  by_cases same : v = leaf
  · simp [same]
  · simp [same, and_comm]

theorem child_of_child (deleted : Deleted graph leaf later) (child : later.Child v w) :
    graph.Child v w :=
  (deleted.child_iff.mp child).2.2

theorem below_of_below (deleted : Deleted graph leaf later) (below : later.Below v w) :
    graph.Below v w :=
  Relation.TransGen.mono (fun _ _ => deleted.child_of_child) v w below

/-- Nothing is below a leaf, so that no path leads through it: all that its
deletion takes from below another node is the leaf itself. -/
theorem below_iff (deleted : Deleted graph leaf later) (bare : graph.childrenOf leaf = []) :
    later.Below v w ↔ graph.Below v w ∧ w ≠ leaf := by
  have parent_ne {u x : NodeId} (child : graph.Child u x) : u ≠ leaf := by
    intro same
    rw [same, Child, bare] at child
    exact List.not_mem_nil child
  constructor
  · intro below
    obtain ⟨parent, -, child⟩ := Relation.TransGen.tail'_iff.mp below
    exact ⟨deleted.below_of_below below, (deleted.child_iff.mp child).2.1⟩
  · rintro ⟨below, other⟩
    induction below with
    | single child =>
        exact .single (deleted.child_iff.mpr ⟨parent_ne child, other, child⟩)
    | tail _ child inductionHypothesis =>
        have stays := inductionHypothesis (parent_ne child)
        exact stays.tail (deleted.child_iff.mpr ⟨parent_ne child, other, child⟩)

theorem acyclicBelow (deleted : Deleted graph leaf later) (acyclic : graph.AcyclicBelow v) :
    later.AcyclicBelow v := by
  intro w path cycle
  have inGraph := Relation.ReflTransGen.mono (fun _ _ => deleted.child_of_child) v w path
  exact acyclic w inGraph (deleted.below_of_below cycle)

end Deleted

/-! ### Descents -/

/-- Edges lead from a node along `steps` down to a node without children, which
is the last of the steps, or the node itself if there are none. -/
inductive Descent (graph : Graph) : NodeId → List NodeId → NodeId → Prop
  | stay {v : NodeId} (bare : graph.childrenOf v = []) : Descent graph v [] v
  | step {v w leaf : NodeId} {steps : List NodeId} (child : graph.Child v w)
      (rest : Descent graph w steps leaf) : Descent graph v (w :: steps) leaf

namespace Descent

theorem bare (descent : graph.Descent v steps leaf) : graph.childrenOf leaf = [] := by
  induction descent with
  | stay bare => exact bare
  | step _ _ inductionHypothesis => exact inductionHypothesis

theorem eq_of_nil (descent : graph.Descent v [] leaf) : leaf = v := by
  cases descent
  rfl

theorem eq_nil (descent : graph.Descent v steps leaf) (bare : graph.childrenOf v = []) :
    steps = [] := by
  cases descent with
  | stay => rfl
  | step child _ => exact absurd (.single child) (not_below bare)

/-- A descent that ends elsewhere has steps. -/
theorem ne_nil (descent : graph.Descent v steps leaf) (away : leaf ≠ v) : steps ≠ [] := by
  intro none
  rw [none] at descent
  exact away descent.eq_of_nil

/-- A descent leads below its start only. -/
theorem below_of_mem (descent : graph.Descent v steps leaf) (member : w ∈ steps) :
    graph.Below v w := by
  induction descent with
  | stay => exact absurd member List.not_mem_nil
  | step child _ inductionHypothesis =>
      rcases List.mem_cons.mp member with first | later
      · rw [first]
        exact .single child
      · exact .head child (inductionHypothesis later)

/-- Without a cycle a descent passes no node twice. -/
theorem nodup (descent : graph.Descent v steps leaf) (acyclic : graph.AcyclicBelow v) :
    (v :: steps).Nodup := by
  induction descent with
  | stay => exact List.pairwise_singleton _ _
  | step child rest inductionHypothesis =>
      apply List.nodup_cons.mpr ⟨_, inductionHypothesis (acyclic.of_child child)⟩
      intro again
      exact acyclic.ne_of_below ((rest.step child).below_of_mem again) rfl

theorem getLast?_eq (descent : graph.Descent v steps leaf) :
    (v :: steps).getLast? = some leaf := by
  induction descent with
  | stay => rfl
  | step _ _ inductionHypothesis =>
      rw [List.getLast?_cons_cons]
      exact inductionHypothesis

/-- Where there is a child to step to, the leaf is the last step. -/
theorem getLast?_steps (descent : graph.Descent v steps leaf) (moved : steps ≠ []) :
    steps.getLast? = some leaf := by
  cases descent with
  | stay => exact absurd rfl moved
  | step _ rest => exact rest.getLast?_eq

theorem leaf_mem (descent : graph.Descent v steps leaf) (moved : steps ≠ []) : leaf ∈ steps :=
  List.mem_of_getLast? (descent.getLast?_steps moved)

theorem leaf_below (descent : graph.Descent v steps leaf) (moved : steps ≠ []) :
    graph.Below v leaf :=
  descent.below_of_mem (descent.leaf_mem moved)

theorem sameShape (descent : graph.Descent v steps leaf) (same : SameShape graph later) :
    later.Descent v steps leaf := by
  induction descent with
  | stay bare =>
      apply Descent.stay
      rw [same.childrenOf]
      exact bare
  | step child _ inductionHypothesis =>
      apply Descent.step _ inductionHypothesis
      rw [same.child_eq]
      exact child

end Descent

end DagScheduling.Graph
