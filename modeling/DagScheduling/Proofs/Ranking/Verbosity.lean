/-
Module: DagScheduling.Proofs.Ranking.Verbosity
Purpose: At every verbosity a ranking does the same, fails the same way, and logs what the
  verbosity admits of the same lines.
Main exports: WidestPath.rank_filters, Riverbed.heardAt, Riverbed.rankWithin_filters,
  Riverbed.rank_filters, Riverbed.returns_iff
-/
import DagScheduling.Proofs.Log.Verbosity
import DagScheduling.Proofs.Ranking.StepBounds
import DagScheduling.Proofs.Ranking.WidestPath

namespace DagScheduling

/-! ### The widest path -/

namespace WidestPath

theorem walk_filters (graph : Graph) (fuel : Nat) (v : NodeId) :
    OnlyFilters fun verbosity => walk verbosity graph fuel v := by
  induction fuel generalizing v with
  | zero => exact .pure none
  | succ fuel inductionHypothesis =>
      simp only [walk]
      apply OnlyFilters.bind (.noteAll _)
      intro _
      cases champion? (wider graph) (graph.childrenOf v) with
      | none => exact .pure (some [])
      | some child => exact (inductionHypothesis child).bind fun _ => .pure _

theorem descent_filters (graph : Graph) :
    OnlyFilters fun verbosity => descent verbosity graph :=
  walk_filters graph (graph.nodeCount + 1) root

theorem rankNode_filters (standing : Standing) (node : NodeId) :
    OnlyFilters fun verbosity => (rankNode verbosity standing node).run := by
  simp only [rankNode]
  apply OnlyFilters.bind_run (.orStop_run _ _)
  intro assigned
  obtain ⟨ledger, issued⟩ := assigned
  cases issued with
  | some priority => exact OnlyFilters.bind_run (.note_run _) fun _ => .pure_run _
  | none => exact OnlyFilters.bind_run (.note_run _) fun _ => .pure_run _

theorem rankNodes_filters (standing : Standing) (steps : List NodeId) :
    OnlyFilters fun verbosity => (steps.foldlM (rankNode verbosity) standing).run := by
  induction steps generalizing standing with
  | nil => exact .pure_run standing
  | cons node rest inductionHypothesis =>
      simp only [List.foldlM_cons]
      exact (rankNode_filters standing node).bind_run inductionHypothesis

theorem deleteLeaf_filters (standing : Standing) (leaf : NodeId) :
    OnlyFilters fun verbosity => (deleteLeaf verbosity standing leaf).run := by
  simp only [deleteLeaf]
  apply OnlyFilters.bind_run (.orStop_run _ _)
  intro graph
  exact OnlyFilters.bind_run (.note_run _) fun _ => .pure_run _

theorem passes_filters (fuel : Nat) (standing : Standing) :
    OnlyFilters fun verbosity => (passes verbosity fuel standing).run := by
  induction fuel generalizing standing with
  | zero => exact .throw_run _
  | succ fuel inductionHypothesis =>
      simp only [passes]
      apply OnlyFilters.bind_run (.lift_run (descent_filters standing.graph))
      intro walked
      cases walked with
      | none => exact .throw_run _
      | some steps =>
          apply OnlyFilters.bind_run (.note_run _)
          intro _
          cases steps.getLast? with
          | none => exact .pure_run standing
          | some leaf =>
              apply OnlyFilters.bind_run (rankNodes_filters standing steps)
              intro ranked
              exact (deleteLeaf_filters ranked leaf).bind_run inductionHypothesis

theorem rank_filters (graph : Graph) (ledger : Ledger) :
    OnlyFilters fun verbosity => rank verbosity graph ledger :=
  passes_filters (graph.nodeCount + 1) { graph := graph, ledger := ledger }

end WidestPath

/-! ### The water drop -/

namespace Riverbed

variable {σ : Type}

/-- The same bed at another verbosity. -/
def heardAt (bed : Riverbed) (verbosity : Verbosity) : Riverbed :=
  { bed with verbosity := verbosity }

variable [WordSource σ] (bed : Riverbed) (first : Candidate) (others : List Candidate)
  (flow : Flow σ)

theorem select_filters (source : σ) :
    OnlyFilters fun verbosity => (bed.heardAt verbosity).select first others source := by
  simp only [select, heardAt]
  cases bed.params.selection with
  | greedy => exact .pure _
  | probabilistic => exact OnlyFilters.bind (.note _) fun _ => .pure _

omit [WordSource σ] in
theorem travel_filters (next : NodeId) :
    OnlyFilters fun verbosity => ((bed.heardAt verbosity).travel flow next).run := by
  apply OnlyFilters.bind_run (.orBreach_run flow (bed.crossing flow.graph flow.drop next))
  intro effect
  apply OnlyFilters.bind_run (.orStop_run _ _)
  intro graph
  exact OnlyFilters.bind_run (.note_run _) fun _ => .pure_run _

omit [WordSource σ] in
theorem rankReached_filters :
    OnlyFilters fun verbosity => ((bed.heardAt verbosity).rankReached flow).run := by
  apply OnlyFilters.bind_run (.orStop_run _ _)
  intro assigned
  obtain ⟨ledger, issued⟩ := assigned
  cases issued with
  | some priority => exact OnlyFilters.bind_run (.note_run _) fun _ => .pure_run _
  | none => exact OnlyFilters.bind_run (.note_run _) fun _ => .pure_run _

theorem step_filters :
    OnlyFilters fun verbosity => ((bed.heardAt verbosity).step first others flow).run := by
  apply OnlyFilters.bind_run (.lift_run (.noteAll _))
  intro _
  apply OnlyFilters.bind_run (.lift_run (bed.select_filters first others flow.source))
  intro selected
  obtain ⟨next, source⟩ := selected
  apply OnlyFilters.bind_run (bed.travel_filters _ next)
  intro arrived
  exact bed.rankReached_filters arrived

theorem descend_filters (fuel : Nat) :
    OnlyFilters fun verbosity => ((bed.heardAt verbosity).descend fuel flow).run := by
  induction fuel generalizing flow with
  | zero => exact .throw_run _
  | succ fuel inductionHypothesis =>
      apply OnlyFilters.bind_run
        (.orBreach_run flow (bed.candidateScores flow.graph flow.drop.current))
      intro candidates
      cases candidates with
      | nil => exact .pure_run flow
      | cons first others => exact (bed.step_filters first others flow).bind_run inductionHypothesis

omit [WordSource σ] in
theorem retireLeaf_filters :
    OnlyFilters fun verbosity => ((bed.heardAt verbosity).retireLeaf flow).run := by
  simp only [retireLeaf]
  cases flow.graph.isRemoved flow.drop.current with
  | true => exact .throw_run _
  | false =>
      apply OnlyFilters.bind_run (.orStop_run _ _)
      intro assigned
      obtain ⟨ledger, issued⟩ := assigned
      have deleting : OnlyFilters fun verbosity =>
          (do
            let ranked := { flow with ledger := ledger }
            let graph ← orStop ranked
              ((flow.graph.removeNode flow.drop.current).mapError .graph)
            note verbosity (.taskRemoved flow.drop.current)
            pure { ranked with graph := graph, drop := { flow.drop with current := root } } :
            Course (Flow σ) (Flow σ)).run := by
        apply OnlyFilters.bind_run (.orStop_run _ _)
        intro graph
        exact OnlyFilters.bind_run (.note_run _) fun _ => .pure_run _
      cases issued with
      | some priority => exact OnlyFilters.bind_run (.note_run _) fun _ => deleting
      | none => exact deleting

theorem descents_filters (steps fuel : Nat) :
    OnlyFilters fun verbosity => ((bed.heardAt verbosity).descents steps fuel flow).run := by
  induction fuel generalizing flow with
  | zero => exact .throw_run _
  | succ fuel inductionHypothesis =>
      apply OnlyFilters.bind_run (bed.descend_filters flow steps)
      intro landed
      by_cases atRoot : landed.drop.current = root
      · simp only [if_pos atRoot]
        exact .pure_run landed
      · simp only [if_neg atRoot]
        exact (bed.retireLeaf_filters landed).bind_run inductionHypothesis

theorem rankWithin_filters (steps : Nat) (graph : Graph) (ledger : Ledger) (source : σ) :
    OnlyFilters fun verbosity =>
      (bed.heardAt verbosity).rankWithin steps graph ledger source := by
  by_cases priced : bed.costs.size = graph.nodeCount
  · have runs (verbosity : Verbosity) :
        (bed.heardAt verbosity).rankWithin steps graph ledger source =
          ((bed.heardAt verbosity).descents steps steps (bed.launch graph ledger source)).run :=
      if_pos priced
    simp only [runs]
    exact bed.descents_filters _ steps steps
  · have refuses (verbosity : Verbosity) :
        (bed.heardAt verbosity).rankWithin steps graph ledger source = pure (.error
          { failure := .reported (.costTableMismatch graph.nodeCount bed.costs.size)
            state := { bed.launch graph ledger source with graph := graph } }) :=
      if_neg priced
    simp only [refuses]
    exact .pure _

theorem rank_filters (graph : Graph) (ledger : Ledger) (source : σ) :
    OnlyFilters fun verbosity => (bed.heardAt verbosity).rank graph ledger source :=
  bed.rankWithin_filters (graph.nodeCount + 1) graph ledger source

/-- What comes back at a verbosity is what comes back at the last level, less the
lines that the verbosity does not admit. -/
theorem returns_iff (graph : Graph) (ledger : Ledger) (source : σ) (verbosity : Verbosity)
    (run : Logged (Except (Stopped (Flow σ)) (Flow σ))) :
    (bed.heardAt verbosity).Returns graph ledger source run ↔
      ∃ full, (bed.heardAt 3).Returns graph ledger source full ∧ run = full.seenAt verbosity := by
  have seen (steps : Nat) :=
    (bed.rankWithin_filters steps graph ledger source).eq_seenAt verbosity
  constructor
  · intro returns
    obtain ⟨steps, rfl, unbroken⟩ := returns
    rw [seen steps] at unbroken
    exact ⟨_, ⟨steps, rfl, unbroken⟩, seen steps⟩
  · intro returns
    obtain ⟨_, ⟨steps, rfl, unbroken⟩, rfl⟩ := returns
    exact ⟨steps, (seen steps).symm, unbroken⟩

end Riverbed

end DagScheduling
