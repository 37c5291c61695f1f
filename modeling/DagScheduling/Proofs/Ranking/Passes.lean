/-
Module: DagScheduling.Proofs.Ranking.Passes
Purpose: The passes that a water drop ranking makes, told without fuel: which edges the drop
  crosses until it lands, and how pass follows on pass. A ranking that ends has made passes, and
  from one state only one sequence of passes can be made.
Main exports: Crosses, Pass, Pass.MadeOn, Passes, passes_of_descents, Crosses.unique,
  Passes.unique
-/
import DagScheduling.Proofs.Ranking.WaterDrop

namespace DagScheduling

/-- From a state on, the drop crosses edge after edge to the nodes listed, until
it lands where there is no child to choose. -/
inductive Crosses {σ : Type} [WordSource σ] (bed : Riverbed) :
    Flow σ → List NodeId → Flow σ → Prop
  | land {flow : Flow σ}
      (scored : bed.candidateScores flow.graph flow.drop.current = .ok []) :
      Crosses bed flow [] flow
  | cross {flow next landed : Flow σ} {first : Candidate} {others : List Candidate}
      {further : List NodeId}
      (scored : bed.candidateScores flow.graph flow.drop.current = .ok (first :: others))
      (stepped : outcome (bed.step first others flow) = .ok next)
      (rest : Crosses bed next further landed) :
      Crosses bed flow (next.drop.current :: further) landed

/-- One pass of a ranking. -/
structure Pass (σ : Type) where
  start : Flow σ
  /-- The nodes that the drop crosses over to, in order. -/
  crossed : List NodeId
  landed : Flow σ
  /-- The state once the leaf is gone. -/
  later : Flow σ

/-- Where the drop lands. -/
def Pass.leaf {σ : Type} (pass : Pass σ) : NodeId :=
  pass.landed.drop.current

/-- A ranking over this bed makes the pass: the drop crosses from its start to
where it lands, away from the root, and the leaf there is retired. -/
structure Pass.MadeOn {σ : Type} [WordSource σ] (bed : Riverbed) (pass : Pass σ) : Prop where
  crosses : Crosses bed pass.start pass.crossed pass.landed
  moved : pass.leaf ≠ root
  retired : outcome (bed.retireLeaf pass.landed) = .ok pass.later

/-- From a state on, a ranking makes the passes listed, and then the drop lands
at the root. -/
inductive Passes {σ : Type} [WordSource σ] (bed : Riverbed) :
    Flow σ → List (Pass σ) → Flow σ → Prop
  | ends {start final : Flow σ} {crossed : List NodeId} (crosses : Crosses bed start crossed final)
      (atRoot : final.drop.current = root) : Passes bed start [] final
  | pass {pass : Pass σ} {passes : List (Pass σ)} {final : Flow σ} (made : pass.MadeOn bed)
      (rest : Passes bed pass.later passes final) : Passes bed pass.start (pass :: passes) final

variable {σ : Type} [WordSource σ] {bed : Riverbed} {flow landed final : Flow σ}
  {pass : Pass σ} {passes : List (Pass σ)} {crossed : List NodeId} {steps fuel : Nat}

/-! ### What has ended has made passes -/

private theorem outcome_descend_zero :
    outcome (bed.descend 0 flow) = .error { failure := .broken .endlessWalk, state := flow } :=
  rfl

private theorem outcome_descents_zero :
    outcome (bed.descents steps 0 flow) =
      .error { failure := .broken .endlessWalk, state := flow } :=
  rfl

theorem crosses_of_descend (ended : outcome (bed.descend fuel flow) = .ok landed) :
    ∃ crossed, Crosses bed flow crossed landed := by
  induction fuel generalizing flow with
  | zero =>
      rw [outcome_descend_zero] at ended
      cases ended
  | succ fuel inductionHypothesis =>
      cases scored : bed.candidateScores flow.graph flow.drop.current with
      | error cause =>
          rw [Riverbed.descend, outcome_bind, scored, outcome_orBreach_error, error_bind] at ended
          cases ended
      | ok candidates =>
          cases candidates with
          | nil =>
              cases (Riverbed.outcome_descend_of_bare scored).symm.trans ended
              exact ⟨[], .land scored⟩
          | cons first others =>
              rw [Riverbed.outcome_descend_succ scored] at ended
              obtain ⟨next, stepped, rest⟩ := exists_of_bind_ok ended
              obtain ⟨further, crosses⟩ := inductionHypothesis rest
              exact ⟨_, .cross scored stepped crosses⟩

theorem passes_of_descents (ended : outcome (bed.descents steps fuel flow) = .ok final) :
    ∃ passes, Passes bed flow passes final := by
  induction fuel generalizing flow with
  | zero =>
      rw [outcome_descents_zero] at ended
      cases ended
  | succ fuel inductionHypothesis =>
      rw [Riverbed.outcome_descents_succ] at ended
      obtain ⟨landed, descended, rest⟩ := exists_of_bind_ok ended
      obtain ⟨crossed, crosses⟩ := crosses_of_descend descended
      by_cases atRoot : landed.drop.current = root
      · rw [if_pos atRoot] at rest
        cases rest
        exact ⟨[], .ends crosses atRoot⟩
      · rw [if_neg atRoot] at rest
        obtain ⟨later, retired, further⟩ := exists_of_bind_ok rest
        obtain ⟨passes, others⟩ := inductionHypothesis further
        let pass : Pass σ := ⟨flow, crossed, landed, later⟩
        have made : pass.MadeOn bed := ⟨crosses, atRoot, retired⟩
        exact ⟨pass :: passes, .pass made others⟩

/-! ### Only one way to go -/

theorem Crosses.unique {other : List NodeId} {landedOther : Flow σ}
    (one : Crosses bed flow crossed landed) (two : Crosses bed flow other landedOther) :
    other = crossed ∧ landedOther = landed := by
  induction one generalizing other with
  | land scored =>
      cases two with
      | land => exact ⟨rfl, rfl⟩
      | cross scoredOther => cases scored.symm.trans scoredOther
  | cross scored stepped _ inductionHypothesis =>
      cases two with
      | land scoredOther => cases scored.symm.trans scoredOther
      | cross scoredOther steppedOther rest =>
          cases scored.symm.trans scoredOther
          cases stepped.symm.trans steppedOther
          obtain ⟨sameCrossed, sameLanded⟩ := inductionHypothesis rest
          exact ⟨congrArg _ sameCrossed, sameLanded⟩

theorem Pass.MadeOn.unique {other : Pass σ} (one : pass.MadeOn bed) (two : other.MadeOn bed)
    (start : other.start = pass.start) : other = pass := by
  have crosses := two.crosses
  rw [start] at crosses
  obtain ⟨crossed, landed⟩ := one.crosses.unique crosses
  have retired := two.retired
  rw [landed, one.retired] at retired
  have later := Except.ok.inj retired
  cases pass
  cases other
  simp_all

theorem Passes.unique {other : List (Pass σ)} {finalOther : Flow σ}
    (one : Passes bed flow passes final) (two : Passes bed flow other finalOther) :
    other = passes ∧ finalOther = final := by
  induction one generalizing other with
  | ends crosses atRoot =>
      cases two with
      | ends crossesOther => exact ⟨rfl, (crosses.unique crossesOther).2⟩
      | pass made =>
          rw [← (crosses.unique made.crosses).2] at atRoot
          exact absurd atRoot made.moved
  | @pass pass passes final made _ inductionHypothesis =>
      -- The two runs share the state they start from, not the pass that names it.
      generalize started : pass.start = start at two
      cases two with
      | ends crosses atRoot =>
          rw [← started] at crosses
          rw [(made.crosses.unique crosses).2] at atRoot
          exact absurd atRoot made.moved
      | pass madeOther rest =>
          cases made.unique madeOther started.symm
          obtain ⟨samePasses, sameFinal⟩ := inductionHypothesis rest
          exact ⟨congrArg _ samePasses, sameFinal⟩

end DagScheduling
