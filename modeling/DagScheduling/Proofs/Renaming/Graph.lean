/-
Module: DagScheduling.Proofs.Renaming.Graph
Purpose: Graphs and ledgers that differ only in the names of their nodes, and that they stay so
  under the operations of a ranking.
Main exports: Renaming, Graph.Renamed, Graph.Renamed.setWeight, Graph.Renamed.removeNode,
  Graph.Renamed.weighByFanOut, Ledger.Renamed, Ledger.Renamed.assign, Standing.Renamed
-/
import DagScheduling.Proofs.Except
import DagScheduling.Proofs.Graph.Edits
import DagScheduling.Proofs.Priority.Issuing
import DagScheduling.Ranking.Course

namespace DagScheduling

/-- Other names for the nodes below `count`: each has a name of its own among
them, and the root keeps its own. -/
structure Renaming (count : Nat) where
  toFun : NodeId → NodeId
  injective : ∀ v w, toFun v = toFun w → v = w
  root_eq : toFun root = root
  lt_iff : ∀ v, toFun v < count ↔ v < count

instance {count : Nat} : CoeFun (Renaming count) fun _ => NodeId → NodeId :=
  ⟨Renaming.toFun⟩

variable {count : Nat} {rename : Renaming count} {graph other : Graph} {ledger : Ledger}
  {v w : NodeId}

namespace Renaming

@[simp] theorem eq_iff (rename : Renaming count) : rename v = rename w ↔ v = w :=
  ⟨rename.injective v w, congrArg rename⟩

theorem eq_root_iff (rename : Renaming count) : rename v = root ↔ v = root := by
  have same : rename v = rename root ↔ v = root := rename.eq_iff
  rwa [rename.root_eq] at same

end Renaming

/-- The edge with its end renamed. -/
def Edge.renamed (rename : Renaming count) (edge : Edge) : Edge :=
  { edge with dest := rename edge.dest }

/-- Under its new name every node of `other` has the edges and the removal mark
that it has in `graph`. -/
structure Graph.Renamed (rename : Renaming count) (graph other : Graph) : Prop where
  nodeCount : graph.nodeCount = count
  nodeCount_other : other.nodeCount = count
  edgesOf : ∀ v, other.edgesOf (rename v) = (graph.edgesOf v).map (Edge.renamed rename)
  isRemoved : ∀ v, other.isRemoved (rename v) = graph.isRemoved v

theorem reweighFirst_renamed (rename : Renaming count) (dest : NodeId) (weight : Float)
    (edges : List Edge) :
    reweighFirst (rename dest) weight (edges.map (Edge.renamed rename)) =
      (reweighFirst dest weight edges).map (Edge.renamed rename) := by
  induction edges with
  | nil => rfl
  | cons edge rest inductionHypothesis =>
      rw [List.map_cons, reweighFirst, reweighFirst, inductionHypothesis]
      by_cases here : edge.dest = dest
      · have renamedHere : (edge.renamed rename).dest = rename dest := congrArg rename here
        rw [if_pos here, if_pos renamedHere]
        rfl
      · have renamedElsewhere : (edge.renamed rename).dest ≠ rename dest := by
          intro same
          exact here (rename.injective _ _ same)
        rw [if_neg here, if_neg renamedElsewhere]
        rfl

namespace Graph.Renamed

theorem childrenOf (renamed : Renamed rename graph other) (v : NodeId) :
    other.childrenOf (rename v) = (graph.childrenOf v).map rename := by
  rw [Graph.childrenOf, renamed.edgesOf, Graph.childrenOf, List.map_map, List.map_map]
  rfl

theorem fanOut (renamed : Renamed rename graph other) (v : NodeId) :
    other.fanOut (rename v) = graph.fanOut v := by
  rw [Graph.fanOut, renamed.edgesOf, List.length_map, Graph.fanOut]

theorem child (renamed : Renamed rename graph other) (child : graph.Child v w) :
    other.Child (rename v) (rename w) := by
  rw [Graph.Child, renamed.childrenOf]
  exact List.mem_map_of_mem child

theorem weight (renamed : Renamed rename graph other) (v w : NodeId) :
    other.weight (rename v) (rename w) = graph.weight v w := by
  have sameTest : (fun edge : Edge => edge.dest == rename w) ∘ Edge.renamed rename =
      fun edge => edge.dest == w := by
    funext edge
    simp [Edge.renamed]
  rw [Graph.weight, renamed.edgesOf, List.find?_map, sameTest, Graph.weight]
  cases (graph.edgesOf v).find? fun edge => edge.dest == w <;> rfl

theorem weighByFanOut (renamed : Renamed rename graph other) (base multiplier : Float) :
    Renamed rename (graph.weighByFanOut base multiplier) (other.weighByFanOut base multiplier) := by
  have same := graph.sameShape_weighByFanOut base multiplier
  have sameOther := other.sameShape_weighByFanOut base multiplier
  refine ⟨same.nodeCount.trans renamed.nodeCount,
    sameOther.nodeCount.trans renamed.nodeCount_other, ?_, ?_⟩
  · intro v
    rw [edgesOf_weighByFanOut, edgesOf_weighByFanOut, renamed.edgesOf, List.map_map, List.map_map]
    apply List.map_congr_left
    intro edge _
    simp only [Function.comp_apply, Edge.renamed, renamed.fanOut]
  · intro v
    rw [sameOther.isRemoved, same.isRemoved, renamed.isRemoved]

theorem setWeight (renamed : Renamed rename graph other) (v w : NodeId) (weight : Float) :
    Follows (Renamed rename) (graph.setWeight v w weight)
      (other.setWeight (rename v) (rename w) weight) := by
  intro later isSet
  have child := child_of_setWeight isSet
  have same := sameShape_of_setWeight isSet
  obtain ⟨laterOther, isOther, sameOther⟩ := setWeight_ok weight (renamed.child child)
  refine ⟨laterOther, isOther, same.nodeCount.trans renamed.nodeCount,
    sameOther.nodeCount.trans renamed.nodeCount_other, ?_, ?_⟩
  · intro u
    simp only [edgesOf_setWeight isOther, edgesOf_setWeight isSet, renamed.edgesOf,
      rename.eq_iff, reweighFirst_renamed]
    rw [apply_ite (List.map (Edge.renamed rename))]
  · intro u
    rw [sameOther.isRemoved, same.isRemoved, renamed.isRemoved]

theorem removeNode (renamed : Renamed rename graph other) (v : NodeId) :
    Follows (Renamed rename) (graph.removeNode v) (other.removeNode (rename v)) := by
  intro later isLater
  have inRange := lt_of_removeNode isLater
  obtain ⟨_, removed, deleted, edges⟩ := graph.removeNode_ok inRange
  cases isLater.symm.trans removed
  rw [renamed.nodeCount] at inRange
  have inRangeOther : rename v < other.nodeCount := by
    rw [renamed.nodeCount_other]
    exact (rename.lt_iff v).mpr inRange
  obtain ⟨laterOther, isOther, deletedOther, edgesOther⟩ := other.removeNode_ok inRangeOther
  have sameTest : (fun edge : Edge => edge.dest != rename v) ∘ Edge.renamed rename =
      fun edge => edge.dest != v := by
    funext edge
    simp [Edge.renamed, bne]
  refine ⟨laterOther, isOther, deleted.nodeCount.trans renamed.nodeCount,
    deletedOther.nodeCount.trans renamed.nodeCount_other, ?_, ?_⟩
  · intro u
    simp only [edgesOther, edges, renamed.edgesOf, List.filter_map, sameTest, rename.eq_iff]
    rw [apply_ite (List.map (Edge.renamed rename)), List.map_nil]
  · intro u
    simp only [deletedOther.isRemoved, deleted.isRemoved, renamed.isRemoved, beq_eq_decide,
      rename.eq_iff]

end Graph.Renamed

/-! ### Ledgers -/

/-- Under its new name every node has the slot in `other` that it has in `ledger`. -/
structure Ledger.Renamed (rename : Renaming count) (ledger other : Ledger) : Prop where
  slots : ∀ v, other.slots[rename v]? = ledger.slots[v]?
  next : other.next = ledger.next

namespace Ledger.Renamed

variable {other : Ledger}

theorem ofTaskCount (rename : Renaming (count + 1)) :
    Renamed rename (Ledger.ofTaskCount count) (Ledger.ofTaskCount count) where
  slots := by
    intro v
    simp only [Ledger.ofTaskCount, Array.getElem?_replicate, rename.lt_iff]
  next := rfl

theorem get? (renamed : Renamed rename ledger other) (v : NodeId) :
    other.get? (rename v) = ledger.get? v := by
  rw [get?_eq, renamed.slots, get?_eq]

theorem assign (renamed : Renamed rename ledger other) (v : NodeId) :
    Follows (fun one two => two.2 = one.2 ∧ Renamed rename one.1 two.1)
      (ledger.assign v) (other.assign (rename v)) := by
  unfold Ledger.assign
  by_cases isRoot : v = root
  · rw [if_pos isRoot, if_pos (rename.eq_root_iff.mpr isRoot)]
    exact .ok ⟨rfl, renamed⟩
  · rw [if_neg isRoot, if_neg (mt rename.eq_root_iff.mp isRoot), renamed.slots, renamed.next]
    cases slot : ledger.slots[v]? with
    | none => exact .error
    | some held =>
        cases held with
        | some priority => exact .ok ⟨rfl, renamed⟩
        | none =>
            cases ledger.next with
            | zero => exact .error
            | succ below =>
                refine .ok ⟨rfl, ?_, rfl⟩
                intro u
                have bound := (Array.getElem?_eq_some_iff.mp slot).1
                have boundOther := (Array.getElem?_eq_some_iff.mp ((renamed.slots v).trans slot)).1
                simp only [Array.getElem?_setIfInBounds, rename.eq_iff, renamed.slots, bound,
                  boundOther]

end Ledger.Renamed

/-- Graph and ledger differ only in the names of the nodes. -/
structure Standing.Renamed (rename : Renaming count) (standing other : Standing) : Prop where
  graph : Graph.Renamed rename standing.graph other.graph
  ledger : Ledger.Renamed rename standing.ledger other.ledger

end DagScheduling
