/-
Module: DagScheduling.Proofs.Ranking.Independence
Purpose: What has no influence on a ranking: the weights of the edges, which the widest path
  never reads and the water drop resets before its first choice, and the root's cost, which is
  read only on the way to the root.
Main exports: Standing.Alike, WidestPath.rank_alike, Graph.SameShape.weighByFanOut_eq,
  Riverbed.SamePrices, Flow.Alike, Riverbed.value_rank_eq, Riverbed.rank_alike
-/
import DagScheduling.Proofs.Ranking.WaterDrop
import DagScheduling.Proofs.Ranking.WidestPath

namespace DagScheduling

open DagScheduling.Graph (SameShape Deleted)

/-- Two rankings stopped for the same reason, in states that are alike. -/
def Stopped.Alike {S T : Type} (alike : S → T → Prop) (one : Stopped S) (two : Stopped T) : Prop :=
  two.failure = one.failure ∧ alike one.state two.state

/-- The graphs differ at most in weights, and the ledgers are the same. -/
structure Standing.Alike (one two : Standing) : Prop where
  graph : SameShape one.graph two.graph
  ledger : two.ledger = one.ledger

variable {graph other : Graph} {fuel : Nat} {v : NodeId}

/-! ### Graphs of one shape -/

namespace Graph.SameShape

theorem fanOut_eq (same : SameShape graph other) (v : NodeId) :
    other.fanOut v = graph.fanOut v := by
  rw [fanOut_eq_length, fanOut_eq_length, same.childrenOf v]

theorem removeNode_alike (same : SameShape graph other) (v : NodeId) :
    EndsAlike Eq SameShape (graph.removeNode v) (other.removeNode v) := by
  by_cases inRange : v < graph.nodeCount
  · obtain ⟨later, removed, deleted, -⟩ := graph.removeNode_ok inRange
    obtain ⟨laterOther, removedOther, deletedOther, -⟩ :=
      other.removeNode_ok (same.nodeCount ▸ inRange)
    rw [removed, removedOther]
    refine .ok ⟨?_, ?_, ?_⟩
    · rw [deletedOther.nodeCount, deleted.nodeCount, same.nodeCount]
    · intro u
      rw [deletedOther.childrenOf u, deleted.childrenOf u, same.childrenOf u]
    · intro u
      rw [deletedOther.isRemoved u, deleted.isRemoved u, same.isRemoved u]
  · rw [removeNode, if_neg inRange, removeNode, same.nodeCount, if_neg inRange]
    exact .error rfl

/-- The new weights are read off the children alone. -/
theorem weighByFanOut_eq (same : SameShape graph other) (base multiplier : Float) :
    other.weighByFanOut base multiplier = graph.weighByFanOut base multiplier := by
  have weighed := graph.sameShape_weighByFanOut base multiplier
  have weighedOther := other.sameShape_weighByFanOut base multiplier
  apply eq_of_views
  · rw [weighedOther.nodeCount, weighed.nodeCount, same.nodeCount]
  · intro v
    have byDest (graph : Graph) : (graph.weighByFanOut base multiplier).edgesOf v =
        (graph.childrenOf v).map fun w =>
          { dest := w, weight := base + multiplier * Float.ofNat (graph.fanOut w) } := by
      rw [edgesOf_weighByFanOut, Graph.childrenOf, List.map_map]
      rfl
    rw [byDest other, byDest graph, same.childrenOf v]
    simp only [same.fanOut_eq]
  · intro v
    rw [weighedOther.isRemoved v, weighed.isRemoved v, same.isRemoved v]

end Graph.SameShape

/-! ### The widest path -/

namespace WidestPath

variable {verbosity : Verbosity} {standing standingOther : Standing}

theorem walk_eq (same : SameShape graph other) (fuel : Nat) (v : NodeId) :
    walk verbosity other fuel v = walk verbosity graph fuel v := by
  have sameWider : wider other = wider graph := by
    funext challenger incumbent
    rw [wider, wider, same.fanOut_eq, same.fanOut_eq]
  have sameNotes (v : NodeId) :
      considerChildren verbosity other v = considerChildren verbosity graph v := by
    rw [considerChildren, considerChildren, same.childrenOf v]
    simp only [same.fanOut_eq]
  induction fuel generalizing v with
  | zero => rfl
  | succ fuel inductionHypothesis =>
      rw [walk, walk, sameNotes, sameWider, same.childrenOf v]
      simp only [inductionHypothesis]

theorem descent_eq (same : SameShape graph other) :
    descent verbosity other = descent verbosity graph := by
  rw [descent, descent, same.nodeCount, walk_eq same]

theorem rankNode_alike (alike : standing.Alike standingOther) (node : NodeId) :
    EndsAlike (Stopped.Alike Standing.Alike) Standing.Alike
      (outcome (rankNode verbosity standing node))
      (outcome (rankNode verbosity standingOther node)) := by
  rw [outcome_rankNode, outcome_rankNode, alike.ledger]
  cases standing.ledger.assign node with
  | ok assigned => exact .ok ⟨alike.graph, rfl⟩
  | error cause => exact .error ⟨rfl, alike⟩

theorem rankNodes_alike (alike : standing.Alike standingOther) (steps : List NodeId) :
    EndsAlike (Stopped.Alike Standing.Alike) Standing.Alike
      (outcome (steps.foldlM (rankNode verbosity) standing))
      (outcome (steps.foldlM (rankNode verbosity) standingOther)) := by
  induction steps generalizing standing standingOther with
  | nil => exact .ok alike
  | cons node rest inductionHypothesis =>
      rw [List.foldlM_cons, List.foldlM_cons, outcome_bind, outcome_bind]
      exact (rankNode_alike alike node).bind fun _ _ next => inductionHypothesis next

theorem deleteLeaf_alike (alike : standing.Alike standingOther) (leaf : NodeId) :
    EndsAlike (Stopped.Alike Standing.Alike) Standing.Alike
      (outcome (deleteLeaf verbosity standing leaf))
      (outcome (deleteLeaf verbosity standingOther leaf)) := by
  rw [deleteLeaf, deleteLeaf, outcome_bind, outcome_bind]
  have removes := alike.graph.removeNode_alike leaf
  generalize standing.graph.removeNode leaf = removed,
    standingOther.graph.removeNode leaf = removedOther at removes ⊢
  cases removes with
  | ok same => exact .ok ⟨same, alike.ledger⟩
  | error same =>
      cases same
      exact .error ⟨rfl, alike⟩

theorem passes_alike (alike : standing.Alike standingOther) (fuel : Nat) :
    EndsAlike (Stopped.Alike Standing.Alike) Standing.Alike
      (outcome (passes verbosity fuel standing))
      (outcome (passes verbosity fuel standingOther)) := by
  induction fuel generalizing standing standingOther with
  | zero => exact .error ⟨rfl, alike⟩
  | succ fuel inductionHypothesis =>
      rw [passes, passes, outcome_bind, outcome_bind, outcome_lift, outcome_lift, ok_bind, ok_bind,
        descent_eq alike.graph]
      cases (descent verbosity standing.graph).value with
      | none => exact .error ⟨rfl, alike⟩
      | some steps =>
          simp only [outcome_bind, outcome_lift, ok_bind]
          cases steps.getLast? with
          | none => exact .ok alike
          | some leaf =>
              simp only [outcome_bind]
              apply (rankNodes_alike alike steps).bind
              intro ranked rankedOther ranks
              apply (deleteLeaf_alike ranks leaf).bind
              intro pruned prunedOther prunes
              exact inductionHypothesis prunes

/-- The ranking never reads a weight. -/
theorem rank_alike (same : SameShape graph other) (verbosity : Verbosity) (ledger : Ledger) :
    EndsAlike (Stopped.Alike Standing.Alike) Standing.Alike
      (rank verbosity graph ledger).value (rank verbosity other ledger).value := by
  rw [rank, rank, same.nodeCount]
  have alike : Standing.Alike ⟨graph, ledger⟩ ⟨other, ledger⟩ := ⟨same, rfl⟩
  exact passes_alike alike (graph.nodeCount + 1)

end WidestPath

/-! ### The water drop -/

/-- Two flows differ at most in the weights of their graphs. -/
structure Flow.Alike {σ : Type} (one two : Flow σ) : Prop where
  standing : one.toStanding.Alike two.toStanding
  drop : two.drop = one.drop
  source : two.source = one.source

/-- The drop is at the root or below it, where no cycle is to be reached. -/
structure Flow.Rooted {σ : Type} (flow : Flow σ) : Prop where
  acyclic : flow.graph.AcyclicBelow root
  place : flow.drop.current = root ∨ flow.graph.Below root flow.drop.current

/-- Where no cycle is to be reached, no edge leads back to the root. -/
theorem Flow.Rooted.not_child_root {σ : Type} {flow : Flow σ} (rooted : flow.Rooted) :
    ¬ flow.graph.Child flow.drop.current root :=
  fun child => rooted.acyclic.ne_of_below (.of_child rooted.place child) rfl

namespace Riverbed

/-- The cost tables differ at most in the root's entry; all else is the same, but for the
verbosity. -/
structure SamePrices (bed other : Riverbed) : Prop where
  params : other.params = bed.params
  size : other.costs.size = bed.costs.size
  costs : ∀ v, v ≠ root → other.costs[v]? = bed.costs[v]?

variable {σ : Type} {bed bedOther : Riverbed} {flow later landed : Flow σ} {next : NodeId}

/-! The drop stays where no cycle is to be reached. -/

theorem step_rooted [WordSource σ] {first : Candidate} {others : List Candidate}
    (rooted : flow.Rooted) (stepped : outcome (bed.step first others flow) = .ok later) :
    later.Rooted := by
  rw [step] at stepped
  simp only [outcome_bind, outcome_lift, ok_bind] at stepped
  obtain ⟨arrived, travelled, ranked⟩ := exists_of_bind_ok stepped
  obtain ⟨child, same, place⟩ := of_travel travelled
  obtain ⟨sameGraph, sameDrop⟩ := of_rankReached ranked
  rw [← sameGraph] at same
  refine ⟨same.acyclicBelow rooted.acyclic, Or.inr ?_⟩
  rw [sameDrop, place, same.below_eq]
  exact .of_child rooted.place child

theorem descend_rooted [WordSource σ] (rooted : flow.Rooted)
    (descended : outcome (bed.descend fuel flow) = .ok landed) : landed.Rooted := by
  induction fuel generalizing flow with
  | zero => cases descended
  | succ fuel inductionHypothesis =>
      rw [descend, outcome_bind] at descended
      obtain ⟨candidates, -, descended⟩ := exists_of_bind_ok descended
      cases candidates with
      | nil =>
          cases descended
          exact rooted
      | cons first others =>
          simp only [outcome_bind] at descended
          obtain ⟨next, stepped, rest⟩ := exists_of_bind_ok descended
          exact inductionHypothesis (step_rooted rooted stepped) rest

theorem retireLeaf_rooted (rooted : flow.Rooted)
    (retired : outcome (bed.retireLeaf flow) = .ok later) : later.Rooted := by
  obtain ⟨deleted, atRoot⟩ := of_retireLeaf retired
  exact ⟨deleted.acyclicBelow rooted.acyclic, Or.inl atRoot⟩

/-! The root's cost is not read. -/

section Prices

variable (same : bed.SamePrices bedOther)
include same

theorem scaledCost_eq (away : v ≠ root) : bedOther.scaledCost v = bed.scaledCost v := by
  rw [scaledCost, scaledCost, same.costs v away, same.params]

theorem candidateScores_eq (away : ¬ graph.Child v root) :
    bedOther.candidateScores graph v = bed.candidateScores graph v := by
  unfold candidateScores
  simp only [same.params]
  apply mapM_congr_mem
  intro edge member
  have destAway : edge.dest ≠ root := fun isRoot =>
    away (isRoot ▸ List.mem_map_of_mem member)
  rw [scaledCost_eq same destAway]

theorem crossing_eq (drop : WaterDrop) (away : next ≠ root) :
    bedOther.crossing graph drop next = bed.crossing graph drop next := by
  simp only [crossing, scaledCost_eq same away, same.params]

theorem travel_eq (away : next ≠ root) :
    outcome (bedOther.travel flow next) = outcome (bed.travel flow next) := by
  simp only [travel, crossing_eq same flow.drop away, outcome_bind, outcome_lift, outcome_pure,
    ok_bind]

theorem value_select_eq [WordSource σ] (first : Candidate) (others : List Candidate) (source : σ) :
    (bedOther.select first others source).value = (bed.select first others source).value := by
  unfold select
  rw [same.params]
  cases bed.params.selection <;> rfl

omit same in
theorem rankReached_eq (flow : Flow σ) :
    outcome (bedOther.rankReached flow) = outcome (bed.rankReached flow) := by
  rw [outcome_rankReached, outcome_rankReached]

omit same in
theorem retireLeaf_eq (flow : Flow σ) :
    outcome (bedOther.retireLeaf flow) = outcome (bed.retireLeaf flow) := by
  cases present : flow.graph.isRemoved flow.drop.current with
  | true =>
      simp only [retireLeaf, present, if_true]
      rfl
  | false => rw [outcome_retireLeaf bedOther present, outcome_retireLeaf bed present]

theorem step_eq [WordSource σ] (rooted : flow.Rooted) {first : Candidate}
    {others : List Candidate}
    (scored : bed.candidateScores flow.graph flow.drop.current = .ok (first :: others)) :
    outcome (bedOther.step first others flow) = outcome (bed.step first others flow) := by
  have chosen := bed.select_mem first others flow.source
  rw [nodes_of_candidateScores scored] at chosen
  have away : (bed.select first others flow.source).value.1 ≠ root := fun isRoot =>
    rooted.not_child_root (isRoot ▸ chosen)
  simp only [step, outcome_bind, outcome_lift, ok_bind, value_select_eq same,
    travel_eq same away]
  exact bind_congr_ok fun arrived _ => rankReached_eq arrived

theorem descend_eq [WordSource σ] (rooted : flow.Rooted) (fuel : Nat) :
    outcome (bedOther.descend fuel flow) = outcome (bed.descend fuel flow) := by
  induction fuel generalizing flow with
  | zero => rfl
  | succ fuel inductionHypothesis =>
      rw [descend, descend, outcome_bind, outcome_bind,
        candidateScores_eq same rooted.not_child_root]
      apply bind_congr_ok
      intro candidates scored
      cases candidates with
      | nil => rfl
      | cons first others =>
          simp only [outcome_bind]
          rw [step_eq same rooted (of_outcome_orBreach scored)]
          apply bind_congr_ok
          intro next stepped
          exact inductionHypothesis (step_rooted rooted stepped)

theorem descents_eq [WordSource σ] (rooted : flow.Rooted) (steps fuel : Nat) :
    outcome (bedOther.descents steps fuel flow) = outcome (bed.descents steps fuel flow) := by
  induction fuel generalizing flow with
  | zero => rfl
  | succ fuel inductionHypothesis =>
      rw [outcome_descents_succ, outcome_descents_succ, descend_eq same rooted]
      apply bind_congr_ok
      intro landed descended
      have rootedLanded := descend_rooted rooted descended
      rw [retireLeaf_eq]
      split
      · rfl
      · apply bind_congr_ok
        intro later retired
        exact inductionHypothesis (retireLeaf_rooted rootedLanded retired)

theorem launch_eq (sameShape : SameShape graph other) (ledger : Ledger) (source : σ) :
    bedOther.launch other ledger source = bed.launch graph ledger source := by
  simp only [launch, same.params, sameShape.weighByFanOut_eq]

end Prices

/-! A whole ranking. -/

variable [WordSource σ]

/-- With a cost for every node the weights are reset, and all is the same from there on. -/
theorem value_rank_eq (same : bed.SamePrices bedOther) (sameShape : SameShape graph other)
    (acyclic : graph.AcyclicBelow root) (priced : bed.costs.size = graph.nodeCount)
    (ledger : Ledger) (source : σ) :
    (bedOther.rank other ledger source).value = (bed.rank graph ledger source).value := by
  have pricedOther : bedOther.costs.size = other.nodeCount := by
    rw [same.size, priced, sameShape.nodeCount]
  have rooted : (bed.launch graph ledger source).Rooted :=
    ⟨(bed.sameShape_launch graph ledger source).acyclicBelow acyclic, Or.inl rfl⟩
  rw [rank, rank, rankWithin_eq_run priced, rankWithin_eq_run pricedOther,
    launch_eq same sameShape, sameShape.nodeCount]
  exact descents_eq same rooted _ _

/-- A cost table of another size is refused while the graph is as it was. -/
theorem value_rank_of_unpriced (unpriced : bed.costs.size ≠ graph.nodeCount) (ledger : Ledger)
    (source : σ) : (bed.rank graph ledger source).value = .error
      { failure := .reported (.costTableMismatch graph.nodeCount bed.costs.size)
        state := { bed.launch graph ledger source with graph := graph } } := by
  rw [rank, rankWithin_of_unpriced unpriced]
  rfl

/-- No weight that the graph comes with is read, nor is the root's cost. -/
theorem rank_alike (same : bed.SamePrices bedOther) (sameShape : SameShape graph other)
    (acyclic : graph.AcyclicBelow root) (ledger : Ledger) (source : σ) :
    EndsAlike (Stopped.Alike Flow.Alike) Flow.Alike
      (bed.rank graph ledger source).value (bedOther.rank other ledger source).value := by
  by_cases priced : bed.costs.size = graph.nodeCount
  · rw [value_rank_eq same sameShape acyclic priced]
    have alike (flow : Flow σ) : flow.Alike flow := ⟨⟨.refl _, rfl⟩, rfl, rfl⟩
    cases (bed.rank graph ledger source).value with
    | ok final => exact .ok (alike final)
    | error stopped => exact .error ⟨rfl, alike stopped.state⟩
  · have unpricedOther : bedOther.costs.size ≠ other.nodeCount := by
      rw [same.size, sameShape.nodeCount]
      exact priced
    rw [value_rank_of_unpriced priced, value_rank_of_unpriced unpricedOther]
    refine .error ⟨?_, ⟨sameShape, rfl⟩, ?_, rfl⟩
    · rw [same.size, sameShape.nodeCount]
    · simp only [launch, same.params]

end Riverbed

end DagScheduling
