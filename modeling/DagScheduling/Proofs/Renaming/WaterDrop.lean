/-
Module: DagScheduling.Proofs.Renaming.WaterDrop
Purpose: The water drop ranking goes by weights, costs, draws and the order of the edges, and not
  by the names of the nodes.
Main exports: Riverbed.Renamed, Flow.Renamed, Riverbed.candidateScores_renamed,
  Riverbed.select_renamed, Riverbed.step_renamed, Riverbed.rank_renamed
-/
import DagScheduling.Proofs.Ranking.WaterDrop
import DagScheduling.Proofs.Renaming.Graph

namespace DagScheduling

variable {count fuel : Nat} {rename : Renaming count} {σ : Type}

/-! ### Candidates -/

/-- The candidate with its node renamed. -/
def Candidate.renamed (rename : Renaming count) (candidate : Candidate) : Candidate :=
  { candidate with node := rename candidate.node }

theorem totalScore_renamed (rename : Renaming count) (candidates : List Candidate) :
    totalScore (candidates.map (Candidate.renamed rename)) = totalScore candidates := by
  rw [totalScore, List.foldl_map]
  rfl

theorem greediest_renamed (rename : Renaming count) (first : Candidate) (others : List Candidate) :
    greediest (first.renamed rename) (others.map (Candidate.renamed rename)) =
      (greediest first others).renamed rename := by
  rw [greediest, greediest, champion, champion, List.foldl_map]
  apply List.foldl_hom (Candidate.renamed rename)
  intro incumbent challenger
  exact (apply_ite (Candidate.renamed rename) _ _ _).symm

theorem spin_renamed (rename : Renaming count) (draw total cumulative : Float)
    (candidate : Candidate) (others : List Candidate) :
    spin draw total cumulative (candidate.renamed rename)
      (others.map (Candidate.renamed rename)) =
      (spin draw total cumulative candidate others).renamed rename := by
  induction others generalizing cumulative candidate with
  | nil => rfl
  | cons next rest inductionHypothesis =>
      rw [List.map_cons, spin, spin, inductionHypothesis,
        apply_ite (Candidate.renamed rename)]
      rfl

theorem leastWeight_renamed (rename : Renaming count) (edges : List Edge) :
    leastWeight (edges.map (Edge.renamed rename)) = leastWeight edges := by
  rw [leastWeight, List.foldl_map]
  rfl

/-! ### Beds and flows -/

/-- Under its new name every node has its old cost; all else is the same, but for
the verbosity. -/
structure Riverbed.Renamed (rename : Renaming count) (bed other : Riverbed) : Prop where
  params : other.params = bed.params
  size : other.costs.size = bed.costs.size
  costs : ∀ v, other.costs[rename v]? = bed.costs[v]?

/-- Two sources give the same draws: there are none, or the sources are the same. -/
def SameDraws (bed : Riverbed) (source other : σ) : Prop :=
  bed.params.selection = .greedy ∨ other = source

/-- The drop with the node that it stands on renamed. -/
def WaterDrop.renamed (rename : Renaming count) (drop : WaterDrop) : WaterDrop :=
  { drop with current := rename drop.current }

/-- Two flows differ only in the names of the nodes, and in their sources if these
are not drawn from. -/
structure Flow.Renamed (rename : Renaming count) (bed : Riverbed) (flow other : Flow σ) :
    Prop where
  standing : Standing.Renamed rename flow.toStanding other.toStanding
  drop : other.drop = flow.drop.renamed rename
  source : SameDraws bed flow.source other.source

namespace Riverbed

variable {bed bedOther : Riverbed} {graph other : Graph} {flow flowOther : Flow σ}

theorem select_of_greedy [WordSource σ] (greedy : bed.params.selection = .greedy)
    {first : Candidate} {others : List Candidate} {source : σ} :
    (bed.select first others source).value = ((greediest first others).node, source) := by
  simp only [select, greedy, Logged.value_pure]

theorem select_of_probabilistic [WordSource σ]
    (probabilistic : bed.params.selection = .probabilistic)
    {first : Candidate} {others : List Candidate} {source : σ} :
    (bed.select first others source).value =
      ((spin (WordSource.share source).1 (totalScore (first :: others)) 0.0 first others).node,
        (WordSource.share source).2) := by
  simp only [select, probabilistic, Logged.value_bind, Logged.value_pure]

section Steps

variable (sameBed : bed.Renamed rename bedOther)
include sameBed

theorem scaledCost_renamed (v : NodeId) :
    Follows (fun one two => two = one) (bed.scaledCost v) (bedOther.scaledCost (rename v)) := by
  rw [scaledCost, scaledCost, sameBed.costs, sameBed.params]
  cases bed.costs[v]? with
  | none => exact .error
  | some cost => exact .ok rfl

theorem candidateScores_renamed (renamed : Graph.Renamed rename graph other) (v : NodeId) :
    Follows (fun one two => two = one.map (Candidate.renamed rename))
      (bed.candidateScores graph v) (bedOther.candidateScores other (rename v)) := by
  simp only [candidateScores, renamed.edgesOf, leastWeight_renamed, sameBed.params]
  apply Follows.mapM
  intro edge _
  apply Follows.bind (scaledCost_renamed sameBed edge.dest)
  intro cost costOther same
  rw [same]
  exact .ok rfl

theorem select_renamed [WordSource σ] (first : Candidate) (others : List Candidate)
    {source sourceOther : σ} (sameDraws : SameDraws bed source sourceOther) :
    let chosen := (bed.select first others source).value
    let chosenOther := (bedOther.select (first.renamed rename)
      (others.map (Candidate.renamed rename)) sourceOther).value
    chosenOther.1 = rename chosen.1 ∧ SameDraws bed chosen.2 chosenOther.2 := by
  cases selection : bed.params.selection with
  | greedy =>
      have selectionOther := (congrArg WaterDropParams.selection sameBed.params).trans selection
      rw [select_of_greedy selection, select_of_greedy selectionOther, greediest_renamed]
      exact ⟨rfl, Or.inl selection⟩
  | probabilistic =>
      have selectionOther := (congrArg WaterDropParams.selection sameBed.params).trans selection
      have sameSource := sameDraws.resolve_left (by simp [selection])
      rw [select_of_probabilistic selection, select_of_probabilistic selectionOther, sameSource,
        ← List.map_cons, totalScore_renamed, spin_renamed]
      exact ⟨rfl, Or.inr rfl⟩

theorem crossing_renamed (renamed : Graph.Renamed rename graph other) (drop : WaterDrop)
    (next : NodeId) :
    Follows (fun one two => two = one) (bed.crossing graph drop next)
      (bedOther.crossing other (drop.renamed rename) (rename next)) := by
  simp only [crossing, WaterDrop.renamed, renamed.weight, sameBed.params]
  apply Follows.bind (scaledCost_renamed sameBed next)
  intro cost costOther same
  rw [same]
  split
  · exact .error
  · exact .ok rfl

/-! ### The drop's way -/

theorem travel_renamed (renamed : Flow.Renamed rename bed flow flowOther) (next : NodeId) :
    Follows (Flow.Renamed rename bed) (outcome (bed.travel flow next))
      (outcome (bedOther.travel flowOther (rename next))) := by
  simp only [travel, outcome_bind, outcome_lift, outcome_pure, ok_bind]
  rw [renamed.drop]
  apply Follows.bind
    (follows_orBreach (crossing_renamed sameBed renamed.standing.graph flow.drop next))
  intro effect effectOther same
  rw [same]
  apply Follows.bind (follows_orStop
    ((renamed.standing.graph.setWeight flow.drop.current next effect.after).mapError _ _))
  intro eroded erodedOther sameGraph
  exact .ok ⟨⟨sameGraph, renamed.standing.ledger⟩, rfl, renamed.source⟩

omit sameBed in
theorem rankReached_renamed (renamed : Flow.Renamed rename bed flow flowOther) :
    Follows (Flow.Renamed rename bed) (outcome (bed.rankReached flow))
      (outcome (bedOther.rankReached flowOther)) := by
  rw [outcome_rankReached, outcome_rankReached, renamed.drop]
  apply Follows.bind (follows_orStop (renamed.standing.ledger.assign flow.drop.current))
  intro assigned assignedOther same
  exact .ok ⟨⟨renamed.standing.graph, same.2⟩, rfl, renamed.source⟩

theorem step_renamed [WordSource σ] (renamed : Flow.Renamed rename bed flow flowOther)
    (first : Candidate) (others : List Candidate) :
    Follows (Flow.Renamed rename bed) (outcome (bed.step first others flow))
      (outcome (bedOther.step (first.renamed rename) (others.map (Candidate.renamed rename))
        flowOther)) := by
  obtain ⟨sameNext, sameSource⟩ := select_renamed sameBed first others renamed.source
  have drawn : Flow.Renamed rename bed
      { flow with source := (bed.select first others flow.source).value.2 }
      { flowOther with
        source := (bedOther.select (first.renamed rename) (others.map (Candidate.renamed rename))
          flowOther.source).value.2 } := ⟨renamed.standing, renamed.drop, sameSource⟩
  simp only [step, outcome_bind, outcome_lift, ok_bind]
  rw [sameNext]
  apply Follows.bind (travel_renamed sameBed drawn _)
  intro arrived arrivedOther same
  exact rankReached_renamed same

theorem descend_renamed [WordSource σ] (renamed : Flow.Renamed rename bed flow flowOther)
    (fuel : Nat) :
    Follows (Flow.Renamed rename bed) (outcome (bed.descend fuel flow))
      (outcome (bedOther.descend fuel flowOther)) := by
  induction fuel generalizing flow flowOther with
  | zero => exact .error
  | succ fuel inductionHypothesis =>
      rw [descend, descend, outcome_bind, outcome_bind, renamed.drop]
      apply Follows.bind (follows_orBreach
        (candidateScores_renamed sameBed renamed.standing.graph flow.drop.current))
      intro candidates candidatesOther same
      rw [same]
      cases candidates with
      | nil => exact .ok renamed
      | cons first others =>
          simp only [List.map_cons, outcome_bind]
          apply Follows.bind (step_renamed sameBed renamed first others)
          intro next nextOther sameNext
          exact inductionHypothesis sameNext

omit sameBed in
theorem retireLeaf_renamed (renamed : Flow.Renamed rename bed flow flowOther) :
    Follows (Flow.Renamed rename bed) (outcome (bed.retireLeaf flow))
      (outcome (bedOther.retireLeaf flowOther)) := by
  have sameRemoved : flowOther.graph.isRemoved flowOther.drop.current =
      flow.graph.isRemoved flow.drop.current := by
    rw [renamed.drop]
    exact renamed.standing.graph.isRemoved flow.drop.current
  cases present : flow.graph.isRemoved flow.drop.current with
  | true =>
      have ends : outcome (bed.retireLeaf flow) = .error
          { failure := .reported (.duplicatePriorityAssignment flow.drop.current)
            state := flow } := by
        simp only [retireLeaf, present, if_true]
        rfl
      rw [ends]
      exact .error
  | false =>
      rw [outcome_retireLeaf bed present, outcome_retireLeaf bedOther (sameRemoved.trans present),
        renamed.drop]
      apply Follows.bind (follows_orStop (renamed.standing.ledger.assign flow.drop.current))
      intro assigned assignedOther same
      apply Follows.bind (follows_orStop
        ((renamed.standing.graph.removeNode flow.drop.current).mapError _ _))
      intro pruned prunedOther sameGraph
      refine .ok ⟨⟨sameGraph, same.2⟩, ?_, renamed.source⟩
      simp only [WaterDrop.renamed, rename.root_eq]

theorem descents_renamed [WordSource σ] (renamed : Flow.Renamed rename bed flow flowOther)
    (steps fuel : Nat) :
    Follows (Flow.Renamed rename bed) (outcome (bed.descents steps fuel flow))
      (outcome (bedOther.descents steps fuel flowOther)) := by
  induction fuel generalizing flow flowOther with
  | zero => exact .error
  | succ fuel inductionHypothesis =>
      rw [outcome_descents_succ, outcome_descents_succ]
      apply Follows.bind (descend_renamed sameBed renamed steps)
      intro landed landedOther same
      have atRoot : landedOther.drop.current = root ↔ landed.drop.current = root := by
        rw [same.drop]
        exact rename.eq_root_iff
      by_cases stays : landed.drop.current = root
      · rw [if_pos stays, if_pos (atRoot.mpr stays)]
        exact .ok same
      · rw [if_neg stays, if_neg (mt atRoot.mp stays)]
        apply Follows.bind (retireLeaf_renamed same)
        intro later laterOther sameLater
        exact inductionHypothesis sameLater

theorem launch_renamed {ledger ledgerOther : Ledger} {source sourceOther : σ}
    (sameGraph : Graph.Renamed rename graph other)
    (sameLedger : Ledger.Renamed rename ledger ledgerOther)
    (sameDraws : SameDraws bed source sourceOther) :
    Flow.Renamed rename bed (bed.launch graph ledger source)
      (bedOther.launch other ledgerOther sourceOther) := by
  refine ⟨⟨?_, sameLedger⟩, ?_, sameDraws⟩
  · simp only [launch, sameBed.params]
    exact sameGraph.weighByFanOut _ _
  · simp only [launch, sameBed.params, WaterDrop.renamed, rename.root_eq]

/-- On a graph with other names the ranking comes to the same under these names. -/
theorem rank_renamed [WordSource σ] {ledger ledgerOther : Ledger} {source sourceOther : σ}
    (sameGraph : Graph.Renamed rename graph other)
    (sameLedger : Ledger.Renamed rename ledger ledgerOther)
    (sameDraws : SameDraws bed source sourceOther) :
    Follows (Flow.Renamed rename bed) (bed.rank graph ledger source).value
      (bedOther.rank other ledgerOther sourceOther).value := by
  by_cases priced : bed.costs.size = graph.nodeCount
  · have pricedOther : bedOther.costs.size = other.nodeCount := by
      rw [sameBed.size, priced, sameGraph.nodeCount, sameGraph.nodeCount_other]
    rw [rank, rank, rankWithin_eq_run priced, rankWithin_eq_run pricedOther,
      sameGraph.nodeCount, sameGraph.nodeCount_other]
    exact descents_renamed sameBed (launch_renamed sameBed sameGraph sameLedger sameDraws) _ _
  · rw [rank, rankWithin_of_unpriced priced]
    exact .error

end Steps

end Riverbed

end DagScheduling
