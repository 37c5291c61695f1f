/-
Module: DagScheduling.Proofs.Ranking.WidestPath
Purpose: The widest path ranking runs to its end in passes, or stops at a node without a slot.
Main exports: WidestPath.walk_descends, WidestPath.rankNodes_end, WidestPath.of_rankNodes,
  WidestPath.of_deleteLeaf, WidestPath.rank_ends, WidestPath.rank_ok
-/
import DagScheduling.Proofs.Ranking.Outcome
import DagScheduling.Proofs.Ranking.Peeling
import DagScheduling.Ranking.WidestPath

namespace DagScheduling.WidestPath

open Ledger (metAll)

variable {verbosity : Verbosity} {graph : Graph} {standing : Standing} {count fuel : Nat}
  {order steps : List NodeId} {v : NodeId}

/-- With more fuel than nodes below its start a walk ends on a leaf. -/
theorem walk_descends (verbosity : Verbosity) (acyclic : graph.AcyclicBelow v)
    (enough : graph.reachableCount v < fuel) :
    ∃ steps leaf, (walk verbosity graph fuel v).value = some steps ∧
      graph.Descent v steps leaf := by
  induction fuel generalizing v with
  | zero => exact absurd enough (Nat.not_lt_zero _)
  | succ fuel inductionHypothesis =>
      rw [walk, Logged.value_bind]
      cases chosen : champion? (wider graph) (graph.childrenOf v) with
      | none =>
          exact ⟨[], v, rfl, .stay (champion?_eq_none_iff.mp chosen)⟩
      | some child =>
          have edge : graph.Child v child := champion?_mem chosen
          have fewer := Graph.reachableCount_lt_of_child acyclic edge
          obtain ⟨steps, leaf, walked, descent⟩ :=
            inductionHypothesis (acyclic.of_child edge) (by omega)
          refine ⟨child :: steps, leaf, ?_, .step edge descent⟩
          show (walk verbosity graph fuel child).value.map _ = _
          rw [walked]
          rfl

theorem outcome_rankNode (verbosity : Verbosity) (standing : Standing) (node : NodeId) :
    outcome (rankNode verbosity standing node) =
      outcome (orStop standing (standing.ledger.assign node)) >>= fun assigned =>
        .ok { standing with ledger := assigned.1 } := by
  rw [rankNode, outcome_bind]
  congr 1
  funext assigned
  obtain ⟨ledger, given⟩ := assigned
  cases given <;> rfl

private theorem outcome_rankNode_ok {node : NodeId} {later : Ledger} {given : Option Priority}
    (assigned : standing.ledger.assign node = .ok (later, given)) :
    outcome (rankNode verbosity standing node) = .ok { standing with ledger := later } := by
  rw [outcome_rankNode, assigned, outcome_orStop_ok, ok_bind]

private theorem outcome_rankNode_error {node : NodeId} {cause : RankingError}
    (refused : standing.ledger.assign node = .error cause) :
    outcome (rankNode verbosity standing node) =
      .error { failure := .reported cause, state := standing } := by
  rw [outcome_rankNode, refused, outcome_orStop_error, error_bind]

/-- The nodes of a path are met in turn, up to the first without a slot. -/
theorem rankNodes_end (verbosity : Verbosity) (standing : Standing)
    (issued : standing.ledger.Issued count order) (steps : List NodeId) :
    (∃ later, outcome (steps.foldlM (rankNode verbosity) standing) = .ok later ∧
      later.graph = standing.graph ∧ later.ledger.Issued count (metAll order steps)) ∨
    StopsAtUnknown (· ∈ steps) count (outcome (steps.foldlM (rankNode verbosity) standing)) := by
  induction steps generalizing standing order with
  | nil => exact Or.inl ⟨standing, rfl, rfl, issued⟩
  | cons node rest inductionHypothesis =>
      rw [List.foldlM_cons, outcome_bind]
      by_cases inRange : node ≤ count
      · obtain ⟨ledger, given, assigned, after⟩ := issued.assign_ok inRange
        rw [outcome_rankNode_ok assigned, ok_bind]
        rcases inductionHypothesis { standing with ledger := ledger } after with
          ⟨later, ended, same, issuedLater⟩ | stops
        · exact Or.inl ⟨later, ended, same, issuedLater⟩
        · exact Or.inr (stops.mono fun _ member => List.mem_cons_of_mem node member)
      · have beyond := Nat.lt_of_not_le inRange
        rw [outcome_rankNode_error (issued.assign_unknown beyond), error_bind]
        exact Or.inr ⟨_, node, rfl, rfl, List.mem_cons_self, beyond⟩

theorem of_rankNodes {ranked : Standing} (issued : standing.ledger.Issued count order)
    (ranks : outcome (steps.foldlM (rankNode verbosity) standing) = .ok ranked) :
    ranked.graph = standing.graph ∧ ranked.ledger.Issued count (metAll order steps) := by
  rcases rankNodes_end verbosity standing issued steps with
    ⟨later, isLater, sameGraph, issuedLater⟩ | ⟨_, _, isError, -⟩
  · cases isLater.symm.trans ranks
    exact ⟨sameGraph, issuedLater⟩
  · cases isError.symm.trans ranks

theorem outcome_deleteLeaf {leaf : NodeId} {later : Graph}
    (removed : standing.graph.removeNode leaf = .ok later) :
    outcome (deleteLeaf verbosity standing leaf) = .ok { standing with graph := later } := by
  unfold deleteLeaf
  rw [removed, outcome_bind, Except.mapError, outcome_orStop_ok, ok_bind, outcome_bind,
    outcome_lift, ok_bind, outcome_pure]

theorem of_deleteLeaf {leaf : NodeId} {pruned : Standing}
    (deletes : outcome (deleteLeaf verbosity standing leaf) = .ok pruned) :
    Graph.Deleted standing.graph leaf pruned.graph ∧ pruned.ledger = standing.ledger := by
  rw [deleteLeaf, outcome_bind] at deletes
  obtain ⟨graph, removes, ended⟩ := exists_of_bind_ok deletes
  cases ended
  exact ⟨Graph.deleted_of_removeNode (of_mapError_ok (of_outcome_orStop removes)), rfl⟩

/-- One pass: the path is walked and its nodes are ranked, then its leaf is
deleted and the other passes follow. -/
theorem outcome_passes_succ {leaf : NodeId}
    (walked : (descent verbosity standing.graph).value = some steps)
    (last : steps.getLast? = some leaf) :
    outcome (passes verbosity (fuel + 1) standing) =
      outcome (steps.foldlM (rankNode verbosity) standing) >>= fun ranked =>
        outcome (deleteLeaf verbosity ranked leaf) >>= fun pruned =>
          outcome (passes verbosity fuel pruned) := by
  rw [passes, outcome_bind, outcome_lift, ok_bind, walked]
  simp only [last, outcome_bind, outcome_lift, ok_bind]

theorem outcome_passes_of_bare
    (walked : (descent verbosity standing.graph).value = some []) :
    outcome (passes verbosity (fuel + 1) standing) = .ok standing := by
  rw [passes, outcome_bind, outcome_lift, ok_bind, walked]
  simp only [List.getLast?_nil, outcome_bind, outcome_lift, outcome_pure, ok_bind]

/-- What the passes come to from a standing on: either a trace of passes takes
the graph apart and the surviving edges keep their weights, or a node below the
root has no slot. -/
theorem passes_end (verbosity : Verbosity) (standing : Standing)
    (issued : standing.ledger.Issued count order)
    (acyclic : standing.graph.AcyclicBelow root)
    (enough : standing.graph.reachableCount root < fuel) :
    (∃ final trace, outcome (passes verbosity fuel standing) = .ok final ∧
      Peels standing.graph trace final.graph ∧
      final.ledger.Issued count (metAll order trace.flatten) ∧
      ∀ u, final.graph.edgesOf u =
        (standing.graph.edgesOf u).filter fun edge => ¬ standing.graph.Below root edge.dest) ∨
    StopsAtUnknown (standing.graph.Below root) count
      (outcome (passes verbosity fuel standing)) := by
  induction fuel generalizing standing order with
  | zero => exact absurd enough (Nat.not_lt_zero _)
  | succ fuel inductionHypothesis =>
      have room := standing.graph.reachableCount_le root
      obtain ⟨steps, leaf, walked, descent⟩ := walk_descends verbosity acyclic
        (Nat.lt_succ_of_le room)
      by_cases moved : steps = []
      · subst moved
        rw [outcome_passes_of_bare walked]
        cases descent with
        | stay bare =>
            refine Or.inl ⟨standing, [], rfl, .done bare (.refl _), issued, ?_⟩
            intro u
            rw [filter_of_bare bare]
      · rw [outcome_passes_succ walked (descent.getLast?_steps moved)]
        rcases rankNodes_end verbosity standing issued steps with
          ⟨ranked, isRanked, sameGraph, issuedLater⟩ | stops
        · have leafBelow := descent.leaf_below moved
          obtain ⟨pruned, removed, deleted, edges⟩ :=
            standing.graph.removeNode_ok leafBelow.lt_nodeCount
          rw [← sameGraph] at removed
          rw [isRanked, ok_bind, outcome_deleteLeaf removed, ok_bind]
          have fewer := deleted.reachableCount_add_one descent.bare acyclic leafBelow
          rcases inductionHypothesis { ranked with graph := pruned } issuedLater
            (deleted.acyclicBelow acyclic) (by show pruned.reachableCount root < fuel; omega) with
            ⟨final, trace, ended, peels, issuedFinal, kept⟩ | stops
          · refine Or.inl ⟨final, steps :: trace, ended, .pass descent moved deleted peels, ?_, ?_⟩
            · rw [List.flatten_cons, Ledger.metAll_append]
              exact issuedFinal
            · intro u
              rw [kept u, edges u]
              split
              · rename_i isLeaf
                have noEdges := List.map_eq_nil_iff.mp descent.bare
                rw [isLeaf, noEdges]
                rfl
              · exact filter_of_deleted descent moved deleted Edge.dest _
          · exact Or.inr (stops.mono fun _ below => deleted.below_of_below below)
        · obtain ⟨stopped, node, isError, cause, member, beyond⟩ := stops
          rw [isError, error_bind]
          exact Or.inr ⟨stopped, node, rfl, cause, descent.below_of_mem member, beyond⟩

/-- The fuel of a ranking lasts: it ends, or stops at a node without a slot. -/
theorem rank_ends (verbosity : Verbosity) {ledger : Ledger} (issued : ledger.Issued count order)
    (acyclic : graph.AcyclicBelow root) :
    (∃ final trace, (rank verbosity graph ledger).value = .ok final ∧
      Peels graph trace final.graph ∧
      final.ledger.Issued count (metAll order trace.flatten) ∧
      ∀ u, final.graph.edgesOf u =
        (graph.edgesOf u).filter fun edge => ¬ graph.Below root edge.dest) ∨
    StopsAtUnknown (graph.Below root) count (rank verbosity graph ledger).value :=
  passes_end verbosity { graph := graph, ledger := ledger } issued acyclic
    (Nat.lt_succ_of_le (graph.reachableCount_le root))

theorem rank_ok (verbosity : Verbosity) {ledger : Ledger} (issued : ledger.Issued count order)
    (acyclic : graph.AcyclicBelow root)
    (slots : ∀ v, graph.Below root v → v < ledger.slots.size) :
    ∃ final, (rank verbosity graph ledger).value = .ok final := by
  rcases rank_ends verbosity issued acyclic with ⟨final, -, ended, -⟩ | stops
  · exact ⟨final, ended⟩
  · exact absurd stops (not_stopsAtUnknown_of_slots issued slots)

end DagScheduling.WidestPath
