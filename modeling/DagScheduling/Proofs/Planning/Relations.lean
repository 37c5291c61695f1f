/-
Module: DagScheduling.Proofs.Planning.Relations
Purpose: Relations without a cycle: claims about all nodes follow from the parents downward, and
  an order with every parent before its children shows that there is no cycle.
Main exports: Relates, Acyclic, Acyclic.induction, Ordered, Ordered.no_cycle
-/
import DagScheduling.Planning.Acyclicity
import Mathlib.Data.Finset.Dedup
import Mathlib.Data.Finset.Filter
import Mathlib.Data.Finset.Card
import Mathlib.Logic.Relation

namespace DagScheduling

variable {related : List Relation} {count : Nat} {parent child v w : NodeId}

def Relates (related : List Relation) (parent child : NodeId) : Prop :=
  (parent, child) ∈ related

/-- No chain of relations leads from a node back to it. -/
def Acyclic (related : List Relation) : Prop :=
  ∀ v, ¬ Relation.TransGen (Relates related) v v

/-- Both ends of every relation are among the nodes `1..count`. -/
def Numbered (count : Nat) (related : List Relation) : Prop :=
  ∀ ⦃parent child⦄, Relates related parent child →
    (1 ≤ parent ∧ parent < count) ∧ 1 ≤ child ∧ child < count

/-! ### From the parents downward -/

open Classical in
/-- The relations that start above a node. -/
private noncomputable def relationsAbove (related : List Relation) (v : NodeId) : Finset Relation :=
  related.toFinset.filter fun relation => Relation.TransGen (Relates related) relation.1 v

private theorem mem_relationsAbove {relation : Relation} :
    relation ∈ relationsAbove related v ↔
      relation ∈ related ∧ Relation.TransGen (Relates related) relation.1 v := by
  simp [relationsAbove]

private theorem relationsAbove_ssubset (acyclic : Acyclic related)
    (relates : Relates related parent child) :
    relationsAbove related parent ⊂ relationsAbove related child := by
  apply (Finset.ssubset_iff_of_subset _).mpr
  · -- The relation between the two starts above the child only.
    refine ⟨(parent, child), mem_relationsAbove.mpr ⟨relates, .single relates⟩, ?_⟩
    intro member
    exact acyclic parent (mem_relationsAbove.mp member).2
  · intro relation member
    obtain ⟨recorded, above⟩ := mem_relationsAbove.mp member
    exact mem_relationsAbove.mpr ⟨recorded, above.tail relates⟩

/-- What holds of a node once it holds of its parents holds of every node. -/
theorem Acyclic.induction (acyclic : Acyclic related) {motive : NodeId → Prop}
    (step : ∀ child, (∀ parent, Relates related parent child → motive parent) → motive child)
    (v : NodeId) : motive v := by
  induction above : relationsAbove related v using Finset.strongInduction generalizing v with
  | H _ inductionHypothesis =>
      apply step
      intro parent relates
      apply inductionHypothesis _ _ parent rfl
      rw [← above]
      exact relationsAbove_ssubset acyclic relates

/-! ### Orders with the parents first -/

/-- Every parent of a node of the list stands further back in it. -/
def Ordered (related : List Relation) : List NodeId → Prop
  | [] => True
  | v :: earlier =>
      (∀ parent, Relates related parent v → parent ∈ earlier) ∧ Ordered related earlier

namespace Ordered

variable {nodes : List NodeId}

theorem parent_mem (ordered : Ordered related nodes) (member : child ∈ nodes)
    (relates : Relates related parent child) : parent ∈ nodes := by
  induction nodes with
  | nil => exact absurd member List.not_mem_nil
  | cons latest earlier inductionHypothesis =>
      rcases List.mem_cons.mp member with same | before
      · subst same
        exact List.mem_cons_of_mem _ (ordered.1 parent relates)
      · exact List.mem_cons_of_mem _ (inductionHypothesis ordered.2 before)

theorem above_mem (ordered : Ordered related nodes) (member : w ∈ nodes)
    (path : Relation.ReflTransGen (Relates related) v w) : v ∈ nodes := by
  induction path using Relation.ReflTransGen.head_induction_on with
  | refl => exact member
  | head relates _ inductionHypothesis => exact ordered.parent_mem inductionHypothesis relates

/-- The nodes of an order are on no cycle: the node that comes last on it would
stand before itself. -/
theorem no_cycle (ordered : Ordered related nodes) (nodup : nodes.Nodup) (member : v ∈ nodes) :
    ¬ Relation.TransGen (Relates related) v v := by
  induction nodes with
  | nil => exact absurd member List.not_mem_nil
  | cons latest earlier inductionHypothesis =>
      obtain ⟨fresh, distinct⟩ := List.nodup_cons.mp nodup
      rcases List.mem_cons.mp member with same | before
      · subst same
        intro cycle
        obtain ⟨parent, path, relates⟩ := Relation.TransGen.tail'_iff.mp cycle
        exact fresh (ordered.2.above_mem (ordered.1 parent relates) path)
      · exact inductionHypothesis ordered.2 distinct before

end Ordered

end DagScheduling
