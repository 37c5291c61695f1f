/-
Module: DagScheduling.Proofs.Ranking.Draws
Purpose: What a water drop ranking takes from its source: one word for each edge that it
  crosses, or none. Where it takes none it goes the same way whatever the source is.
Main exports: WordSource.skip, SelectionMode.draws, Riverbed.source_select, Flow.redirect,
  Crosses.redirect, Passes.redirect
-/
import DagScheduling.Proofs.Ranking.Passes
import Mathlib.Logic.Function.Iterate

namespace DagScheduling

variable {σ τ : Type} {bed : Riverbed} {flow later landed final : Flow σ}
  {passes : List (Pass σ)} {crossed : List NodeId} {next : NodeId}

/-! ### Words taken -/

section Words

variable [WordSource σ]

/-- The source after some words have been taken from it. -/
def WordSource.skip (words : Nat) (source : σ) : σ :=
  (fun source => (WordSource.next source).2)^[words] source

theorem WordSource.skip_add (first second : Nat) (source : σ) :
    WordSource.skip (first + second) source =
      WordSource.skip second (WordSource.skip first source) := by
  rw [skip, Nat.add_comm]
  exact Function.iterate_add_apply _ second first source

/-- How many words a choice takes. -/
def SelectionMode.draws : SelectionMode → Nat
  | .probabilistic => 1
  | .greedy => 0

/-- However many candidates there are, a choice takes as many words as its mode says. -/
theorem Riverbed.source_select (first : Candidate) (others : List Candidate) (source : σ) :
    (bed.select first others source).value.2 =
      WordSource.skip bed.params.selection.draws source := by
  unfold select
  cases bed.params.selection <;> rfl

end Words

/-! ### Another source -/

/-- The same state with another source. -/
def Flow.redirect (source : τ) (flow : Flow σ) : Flow τ where
  toStanding := flow.toStanding
  drop := flow.drop
  source := source

def Pass.redirect (source : τ) (pass : Pass σ) : Pass τ where
  start := pass.start.redirect source
  crossed := pass.crossed
  landed := pass.landed.redirect source
  later := pass.later.redirect source

variable (source : τ)

private theorem travel_redirect (travelled : outcome (bed.travel flow next) = .ok later) :
    outcome (bed.travel (flow.redirect source) next) = .ok (later.redirect source) := by
  simp only [Riverbed.travel, outcome_bind, outcome_lift, outcome_pure, ok_bind] at travelled ⊢
  obtain ⟨effect, isEffect, rest⟩ := exists_of_bind_ok travelled
  obtain ⟨graph, isGraph, reached⟩ := exists_of_bind_ok rest
  cases reached
  have effectSame := of_outcome_orBreach isEffect
  have graphSame := of_outcome_orStop isGraph
  simp only [Flow.redirect, effectSame, graphSame, outcome_orBreach_ok, outcome_orStop_ok, ok_bind]

private theorem rankReached_redirect (ranked : outcome (bed.rankReached flow) = .ok later) :
    outcome (bed.rankReached (flow.redirect source)) = .ok (later.redirect source) := by
  cases assigned : flow.ledger.assign flow.drop.current with
  | error cause =>
      rw [Riverbed.outcome_rankReached_error assigned] at ranked
      cases ranked
  | ok result =>
      have assignedThere : (flow.redirect source).ledger.assign
          (flow.redirect source).drop.current = .ok (result.1, result.2) := assigned
      rw [Riverbed.outcome_rankReached_ok assigned] at ranked
      cases ranked
      rw [Riverbed.outcome_rankReached_ok assignedThere]
      rfl

private theorem retireLeaf_redirect (retired : outcome (bed.retireLeaf flow) = .ok later) :
    outcome (bed.retireLeaf (flow.redirect source)) = .ok (later.redirect source) := by
  cases present : flow.graph.isRemoved flow.drop.current with
  | true =>
      simp only [Riverbed.retireLeaf, present, if_true] at retired
      cases retired
  | false =>
      have presentThere : (flow.redirect source).graph.isRemoved
          (flow.redirect source).drop.current = false := present
      rw [Riverbed.outcome_retireLeaf bed present] at retired
      rw [Riverbed.outcome_retireLeaf bed presentThere]
      obtain ⟨assigned, isAssigned, rest⟩ := exists_of_bind_ok retired
      obtain ⟨graph, isGraph, ended⟩ := exists_of_bind_ok rest
      cases ended
      have assignedSame := of_outcome_orStop isAssigned
      have graphSame := of_outcome_orStop isGraph
      simp only [Flow.redirect, assignedSame, graphSame, outcome_orStop_ok, ok_bind]

variable [WordSource σ] [WordSource τ]

/-- A greedy step is what its choice makes of it. -/
private theorem outcome_step_of_greedy (greedy : bed.params.selection = .greedy)
    (first : Candidate) (others : List Candidate) (flow : Flow σ) :
    outcome (bed.step first others flow) =
      outcome (bed.travel flow (greediest first others).node) >>= fun arrived =>
        outcome (bed.rankReached arrived) := by
  simp only [Riverbed.step, Riverbed.select, greedy, outcome_bind, outcome_lift, ok_bind]
  rfl

private theorem step_redirect (greedy : bed.params.selection = .greedy) {first : Candidate}
    {others : List Candidate} (stepped : outcome (bed.step first others flow) = .ok later) :
    outcome (bed.step first others (flow.redirect source)) = .ok (later.redirect source) := by
  rw [outcome_step_of_greedy greedy] at stepped ⊢
  obtain ⟨arrived, travelled, ranked⟩ := exists_of_bind_ok stepped
  rw [travel_redirect source travelled, ok_bind]
  exact rankReached_redirect source ranked

/-- What a greedy ranking crosses does not depend on the source. -/
theorem Crosses.redirect (greedy : bed.params.selection = .greedy)
    (crosses : Crosses bed flow crossed landed) :
    Crosses bed (flow.redirect source) crossed (landed.redirect source) := by
  induction crosses with
  | land scored => exact .land scored
  | @cross flow next landed first others further scored stepped _ inductionHypothesis =>
      have scoredThere : bed.candidateScores (flow.redirect source).graph
          (flow.redirect source).drop.current = .ok (first :: others) := scored
      have crosses := Crosses.cross scoredThere (step_redirect source greedy stepped)
        inductionHypothesis
      exact crosses

theorem Passes.redirect (greedy : bed.params.selection = .greedy)
    (made : Passes bed flow passes final) :
    Passes bed (flow.redirect source) (passes.map (Pass.redirect source))
      (final.redirect source) := by
  induction made with
  | ends crosses atRoot => exact .ends (crosses.redirect source greedy) atRoot
  | @pass pass passes final made _ inductionHypothesis =>
      have madeThere : (pass.redirect source).MadeOn bed :=
        ⟨made.crosses.redirect source greedy, made.moved,
          retireLeaf_redirect source made.retired⟩
      exact Passes.pass madeThere inductionHypothesis

end DagScheduling
