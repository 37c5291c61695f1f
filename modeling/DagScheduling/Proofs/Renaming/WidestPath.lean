/-
Module: DagScheduling.Proofs.Renaming.WidestPath
Purpose: The widest path ranking goes by the order of the edges and not by the names of the nodes.
Main exports: WidestPath.walk_renamed, WidestPath.passes_renamed, WidestPath.rank_renamed
-/
import DagScheduling.Proofs.Ranking.WidestPath
import DagScheduling.Proofs.Renaming.Graph
import DagScheduling.Proofs.StableSort

namespace DagScheduling

variable {count fuel : Nat} {rename : Renaming count} {verbosity : Verbosity}

namespace WidestPath

variable {graph other : Graph} {standing standingOther : Standing}

theorem wider_renamed (renamed : Graph.Renamed rename graph other) (v w : NodeId) :
    wider other (rename v) (rename w) = wider graph v w := by
  rw [wider, renamed.fanOut, renamed.fanOut, wider]

theorem champion?_renamed (renamed : Graph.Renamed rename graph other) (v : NodeId) :
    champion? (wider other) (other.childrenOf (rename v)) =
      (champion? (wider graph) (graph.childrenOf v)).map rename := by
  rw [renamed.childrenOf, champion?_map]
  simp only [wider_renamed renamed]

theorem walk_renamed (verbosity : Verbosity) (renamed : Graph.Renamed rename graph other)
    (fuel : Nat) (v : NodeId) :
    (walk verbosity other fuel (rename v)).value =
      (walk verbosity graph fuel v).value.map (List.map rename) := by
  induction fuel generalizing v with
  | zero => rfl
  | succ fuel inductionHypothesis =>
      rw [walk, walk, Logged.value_bind, Logged.value_bind, champion?_renamed renamed]
      cases champion? (wider graph) (graph.childrenOf v) with
      | none => rfl
      | some child =>
          show (walk verbosity other fuel (rename child)).value.map _ = _
          rw [inductionHypothesis child, Option.map_map]
          show _ = ((walk verbosity graph fuel child).value.map _).map _
          rw [Option.map_map]
          rfl

theorem descent_renamed (renamed : Graph.Renamed rename graph other) :
    (descent verbosity other).value = (descent verbosity graph).value.map (List.map rename) := by
  have fromRoot := walk_renamed verbosity renamed (count + 1) root
  rw [rename.root_eq] at fromRoot
  rw [descent, descent, renamed.nodeCount, renamed.nodeCount_other, fromRoot]

theorem rankNode_renamed (renamed : Standing.Renamed rename standing standingOther) (v : NodeId) :
    Follows (Standing.Renamed rename) (outcome (rankNode verbosity standing v))
      (outcome (rankNode verbosity standingOther (rename v))) := by
  rw [outcome_rankNode, outcome_rankNode]
  apply Follows.bind (follows_orStop (renamed.ledger.assign v))
  intro assigned assignedOther same
  exact .ok ⟨renamed.graph, same.2⟩

theorem rankNodes_renamed (renamed : Standing.Renamed rename standing standingOther)
    (steps : List NodeId) :
    Follows (Standing.Renamed rename) (outcome (steps.foldlM (rankNode verbosity) standing))
      (outcome ((steps.map rename).foldlM (rankNode verbosity) standingOther)) := by
  induction steps generalizing standing standingOther with
  | nil => exact .ok renamed
  | cons node rest inductionHypothesis =>
      rw [List.map_cons, List.foldlM_cons, List.foldlM_cons, outcome_bind, outcome_bind]
      apply Follows.bind (rankNode_renamed renamed node)
      intro next nextOther same
      exact inductionHypothesis same

theorem deleteLeaf_renamed (renamed : Standing.Renamed rename standing standingOther)
    (leaf : NodeId) :
    Follows (Standing.Renamed rename) (outcome (deleteLeaf verbosity standing leaf))
      (outcome (deleteLeaf verbosity standingOther (rename leaf))) := by
  rw [deleteLeaf, deleteLeaf, outcome_bind, outcome_bind]
  apply Follows.bind (follows_orStop ((renamed.graph.removeNode leaf).mapError _ _))
  intro pruned prunedOther same
  exact .ok ⟨same, renamed.ledger⟩

theorem passes_renamed (renamed : Standing.Renamed rename standing standingOther) (fuel : Nat) :
    Follows (Standing.Renamed rename) (outcome (passes verbosity fuel standing))
      (outcome (passes verbosity fuel standingOther)) := by
  induction fuel generalizing standing standingOther with
  | zero => exact .error
  | succ fuel inductionHypothesis =>
      rw [passes, passes, outcome_bind, outcome_bind, outcome_lift, outcome_lift, ok_bind, ok_bind,
        descent_renamed renamed.graph]
      cases (descent verbosity standing.graph).value with
      | none => exact .error
      | some steps =>
          simp only [Option.map_some, outcome_bind, outcome_lift, ok_bind, List.getLast?_map]
          cases steps.getLast? with
          | none => exact .ok renamed
          | some leaf =>
              simp only [Option.map_some, outcome_bind]
              apply Follows.bind (rankNodes_renamed renamed steps)
              intro ranked rankedOther same
              apply Follows.bind (deleteLeaf_renamed same leaf)
              intro pruned prunedOther samePruned
              exact inductionHypothesis samePruned

/-- On a graph with other names the ranking comes to the same under these names. -/
theorem rank_renamed {ledger ledgerOther : Ledger} (sameGraph : Graph.Renamed rename graph other)
    (sameLedger : Ledger.Renamed rename ledger ledgerOther) :
    Follows (Standing.Renamed rename) (rank verbosity graph ledger).value
      (rank verbosity other ledgerOther).value := by
  rw [rank, rank, sameGraph.nodeCount, sameGraph.nodeCount_other]
  exact passes_renamed ⟨sameGraph, sameLedger⟩ (count + 1)

end WidestPath

end DagScheduling
