/-
Module: DagScheduling.Proofs.Ranking.Descents
Purpose: A water drop ranking makes one descent for each node below the root. Every descent
  follows a simple path to a leaf, takes as many words from the source as its choices draw, and
  leaves one node less below the root.
Main exports: Pass.Descends, Crosses.descends, Pass.MadeOn.descends, Passes.descend,
  rank_descents
-/
import DagScheduling.Proofs.Ranking.Draws
import DagScheduling.Proofs.Ranking.StepBounds
import DagScheduling.Random.Xoshiro

namespace DagScheduling

open DagScheduling.Graph (SameShape Deleted)
open Ledger (metAll)

/-- A pass that starts while `left` nodes are below the root: a simple path leads
to a leaf, the leaf alone is deleted, and each crossing takes `draws` words. -/
structure Pass.Descends {σ : Type} [WordSource σ] (pass : Pass σ) (draws left : Nat) : Prop where
  atRoot : pass.start.drop.current = root
  left_eq : pass.start.graph.reachableCount root = left
  descent : pass.start.graph.Descent root pass.crossed pass.leaf
  simple : (root :: pass.crossed).Nodup
  length_le : pass.crossed.length ≤ left
  deleted : Deleted pass.start.graph pass.leaf pass.later.graph
  left_later : pass.later.graph.reachableCount root + 1 = left
  source_eq : pass.later.source =
    WordSource.skip (draws * pass.crossed.length) pass.start.source

variable {σ : Type} [WordSource σ] {bed : Riverbed} {flow landed start final : Flow σ}
  {pass : Pass σ} {passes : List (Pass σ)} {crossed order : List NodeId} {count : Nat}
  {graph : Graph} {ledger : Ledger}

/-- Crossing edge after edge the drop descends to a leaf. -/
theorem Crosses.descends (crosses : Crosses bed flow crossed landed) (fits : bed.Fits flow.graph)
    (issued : flow.ledger.Issued count order) :
    flow.graph.Descent flow.drop.current crossed landed.drop.current ∧
      SameShape flow.graph landed.graph ∧ landed.ledger.Issued count (metAll order crossed) ∧
      landed.source =
        WordSource.skip (bed.params.selection.draws * crossed.length) flow.source := by
  induction crosses generalizing order with
  | @land flow scored =>
      obtain ⟨candidates, scoredHere, nodes⟩ :=
        Riverbed.candidateScores_ok fits flow.drop.current
      cases scored.symm.trans scoredHere
      exact ⟨.stay nodes.symm, .refl _, issued, rfl⟩
  | @cross flow next landed first others further scored stepped rest inductionHypothesis =>
      obtain ⟨candidates, scoredHere, nodes⟩ :=
        Riverbed.candidateScores_ok fits flow.drop.current
      cases scored.symm.trans scoredHere
      rcases Riverbed.step_ends fits issued nodes with
        ⟨node, reached, isReached, child, place, same, issuedNext, drawn⟩ | stops
      · cases stepped.symm.trans isReached
        subst place
        obtain ⟨descent, sameRest, issuedRest, drawnRest⟩ :=
          inductionHypothesis (fits.of_nodeCount same.nodeCount) issuedNext
        refine ⟨.step child (descent.sameShape same.symm), same.trans sameRest, issuedRest, ?_⟩
        rw [drawnRest, drawn, Riverbed.source_select, ← WordSource.skip_add, List.length_cons,
          Nat.mul_succ, Nat.add_comm]
      · obtain ⟨stopped, node, isError, -⟩ := stops
        cases stepped.symm.trans isError

theorem Pass.MadeOn.descends (made : pass.MadeOn bed)
    (poised : bed.Poised count order pass.start) :
    pass.Descends bed.params.selection.draws (pass.start.graph.reachableCount root) ∧
      bed.Poised count (metAll order pass.crossed) pass.later := by
  obtain ⟨descent, same, issued, drawn⟩ := made.crosses.descends poised.fits poised.issued
  rw [poised.atRoot] at descent
  have moved := descent.ne_nil made.moved
  obtain ⟨later, retired, deleted, poisedLater, sameSource⟩ :=
    poised.retire descent moved same issued
  cases made.retired.symm.trans retired
  refine ⟨⟨poised.atRoot, rfl, descent, descent.nodup poised.acyclic,
    descent.length_le poised.acyclic, deleted, ?_, sameSource.trans drawn⟩, poisedLater⟩
  exact deleted.reachableCount_add_one descent.bare poised.acyclic (descent.leaf_below moved)

/-- With every pass one node less is below the root, and the passes end when
none is left. -/
theorem Passes.descend (made : Passes bed start passes final)
    (poised : bed.Poised count order start) :
    passes.length = start.graph.reachableCount root ∧
      (∀ (k : Nat) (pass : Pass σ), passes[k]? = some pass →
        pass.Descends bed.params.selection.draws (start.graph.reachableCount root - k)) ∧
      final.source = WordSource.skip
        (bed.params.selection.draws * (passes.flatMap Pass.crossed).length) start.source := by
  -- Each pass leaves the next what it relies on, and one node less below the root.
  induction made generalizing order with
  | @ends start final crossed crosses atRoot =>
      obtain ⟨descent, -, -, drawn⟩ := crosses.descends poised.fits poised.issued
      rw [poised.atRoot, atRoot] at descent
      have noEdge := descent.bare
      rw [descent.eq_nil noEdge] at drawn
      exact ⟨(Graph.reachableCount_of_bare noEdge).symm, by simp, drawn⟩
  | @pass pass passes final first _ inductionHypothesis =>
      obtain ⟨descends, poisedLater⟩ := first.descends poised
      obtain ⟨length, others, drawn⟩ := inductionHypothesis poisedLater
      have oneLess := descends.left_later
      refine ⟨by rw [List.length_cons, length, oneLess], ?_, ?_⟩
      · intro k other there
        cases k with
        | zero =>
            cases there
            exact descends
        | succ k =>
            have further := others k other there
            rw [← oneLess, Nat.add_sub_add_right]
            exact further
      · rw [drawn, descends.source_eq, ← WordSource.skip_add, List.flatMap_cons,
          List.length_append, Nat.mul_add]

/-- A ranking for which there are slots ends, and has made passes. -/
theorem rank_passes (source : σ) (fits : bed.Fits graph) (issued : ledger.Issued count order)
    (acyclic : graph.AcyclicBelow root)
    (present : ∀ v, graph.Below root v → graph.isRemoved v = false)
    (slots : ∀ v, graph.Below root v → v < ledger.slots.size) :
    ∃ final passes, (bed.rank graph ledger source).value = .ok final ∧
      Passes bed (bed.launch graph ledger source) passes final := by
  rcases bed.rank_ends source fits issued acyclic present with ⟨final, -, ended, -⟩ | stops
  · have descended := ended
    rw [Riverbed.rank_eq_descents fits] at descended
    obtain ⟨passes, made⟩ := passes_of_descents descended
    exact ⟨final, passes, ended, made⟩
  · exact absurd stops (not_stopsAtUnknown_of_slots issued slots)

/-- A greedy ranking ends in the same graph, ledger and drop for every source. -/
theorem rank_redirect {τ : Type} [WordSource τ] (greedy : bed.params.selection = .greedy)
    (fits : bed.Fits graph) (issued : ledger.Issued count order)
    (acyclic : graph.AcyclicBelow root)
    (present : ∀ v, graph.Below root v → graph.isRemoved v = false)
    (slots : ∀ v, graph.Below root v → v < ledger.slots.size) (source : σ) (other : τ) :
    ∃ final, (bed.rank graph ledger source).value = .ok final ∧
      (bed.rank graph ledger other).value = .ok (final.redirect other) := by
  obtain ⟨final, passes, ended, made⟩ := rank_passes source fits issued acyclic present slots
  obtain ⟨finalOther, _, endedOther, madeOther⟩ :=
    rank_passes other fits issued acyclic present slots
  -- The same passes can be made with the other source, and there is only one way to go.
  have same := ((made.redirect other greedy).unique madeOther).2
  exact ⟨final, ended, same ▸ endedOther⟩

/-- A ranking of a graph without a cycle below the root ends, whatever its scores
and draws are, and no bound on its steps breaks it off. It makes one descent for
each node below the root, and there is no other way to go: every descent follows
a simple path from the root to a leaf and deletes it, so that each leaves one
node less below the root. Every edge crossed takes one word from the source, or
none if the choice is greedy, and then the ranking ends in the same graph, ledger
and drop for every source. -/
theorem rank_descents (reached : Ledger.Reached count ledger) (fits : bed.Fits graph)
    (acyclic : graph.AcyclicBelow root)
    (present : ∀ v, graph.Below root v → graph.isRemoved v = false)
    (slots : ∀ v, graph.Below root v → v < ledger.slots.size) (source : σ) :
    let left := graph.reachableCount root
    let draws := bed.params.selection.draws
    let start := bed.launch graph ledger source
    bed.Returns graph ledger source (bed.rank graph ledger source) ∧
    ∃ final passes, (bed.rank graph ledger source).value = .ok final ∧
      Passes bed start passes final ∧
      (∀ others last, Passes bed start others last → others = passes) ∧
      passes.length = left ∧
      (∀ (k : Nat) (pass : Pass σ), passes[k]? = some pass → pass.Descends draws (left - k)) ∧
      final.source = WordSource.skip (draws * (passes.flatMap Pass.crossed).length) source ∧
      (bed.params.selection = .greedy → ∀ (τ : Type) [WordSource τ] (other : τ),
        (bed.rank graph ledger other).value = .ok (final.redirect other)) := by
  intro left draws start
  obtain ⟨order, issued⟩ := reached.exists_issued
  obtain ⟨final, passes, ended, made⟩ := rank_passes source fits issued acyclic present slots
  obtain ⟨length, each, drawn⟩ :=
    made.descend (Riverbed.poised_launch source fits issued acyclic present)
  have same : start.graph.reachableCount root = left :=
    (bed.sameShape_launch graph ledger source).reachableCount_eq root
  rw [same] at length each
  refine ⟨Riverbed.returns_rank fits issued acyclic present, final, passes, ended, made,
    fun _ _ others => (made.unique others).1, length, each, drawn, ?_⟩
  intro greedy τ _ other
  obtain ⟨_, endedHere, endedOther⟩ :=
    rank_redirect greedy fits issued acyclic present slots source other
  cases ended.symm.trans endedHere
  exact endedOther

/-- Two ways lead to node 3, one of them by a repeated edge; node 4 is out of reach. -/
private def delta : Graph where
  nodes :=
    #[{ edges := [⟨1, 1.0⟩, ⟨2, 1.0⟩] }, { edges := [⟨3, 1.0⟩, ⟨3, 2.0⟩] }, { edges := [⟨3, 1.0⟩] },
      {}, { edges := [⟨4, 1.0⟩] }]
  dest_lt := by decide

private def evenBed (selection : SelectionMode) : Riverbed where
  params := { selection := selection }
  costs := Array.replicate 5 1.0

theorem rank_descents_delta :
    let ledger := Ledger.ofTaskCount 3
    let words : Script := { words := [7, 5] }
    Ledger.Reached 3 ledger ∧ (∀ selection, (evenBed selection).Fits delta) ∧
      delta.AcyclicBelow root ∧ (∀ v, delta.Below root v → delta.isRemoved v = false) ∧
      (∀ v, delta.Below root v → v < ledger.slots.size) ∧
      (evenBed .probabilistic).Returns delta ledger words
        ((evenBed .probabilistic).rank delta ledger words) ∧
      (∃ final passes, ((evenBed .probabilistic).rank delta ledger words).value = .ok final ∧
        Passes (evenBed .probabilistic) ((evenBed .probabilistic).launch delta ledger words)
          passes final ∧ passes.length = 3 ∧
        (∀ (k : Nat) (pass : Pass Script), passes[k]? = some pass → pass.Descends 1 (3 - k)) ∧
        final.source = WordSource.skip (1 * (passes.flatMap Pass.crossed).length) words) ∧
      ∃ final, ((evenBed .greedy).rank delta ledger words).value = .ok final ∧
        ((evenBed .greedy).rank delta ledger (Xoshiro.ofSeed 0)).value =
          .ok (final.redirect (Xoshiro.ofSeed 0)) := by
  intro ledger words
  have reached : Ledger.Reached 3 ledger := .fresh
  have fits : ∀ selection, (evenBed selection).Fits delta := by
    intro selection
    cases selection <;> exact ⟨rfl, by decide⟩
  have acyclic : delta.AcyclicBelow root := .of_ascending [0, 1, 2, 3] (by decide) (by decide)
  have noneRemoved : ∀ v < 5, delta.isRemoved v = false := by decide
  have present : ∀ v, delta.Below root v → delta.isRemoved v = false :=
    fun v below => noneRemoved v below.lt_nodeCount
  have inReach : ∀ v < 5, delta.Below root v → v < ledger.slots.size := by decide +kernel
  have slots : ∀ v, delta.Below root v → v < ledger.slots.size :=
    fun v below => inReach v below.lt_nodeCount below
  have left : delta.reachableCount root = 3 := by decide +kernel
  obtain ⟨returns, final, passes, ended, made, -, length, each, drawn, -⟩ :=
    rank_descents reached (fits .probabilistic) acyclic present slots words
  rw [left] at length each
  refine ⟨reached, fits, acyclic, present, slots, returns,
    ⟨final, passes, ended, made, length, each, drawn⟩, ?_⟩
  obtain ⟨-, final, _, ended, -, -, -, -, -, same⟩ :=
    rank_descents reached (fits .greedy) acyclic present slots words
  exact ⟨final, ended, same rfl Xoshiro (Xoshiro.ofSeed 0)⟩

end DagScheduling
