/-
Module: DagScheduling.Proofs.Ranking.StepBounds
Purpose: The bound on the steps of a water drop ranking does nothing but break a run off. What is
  not broken off is the same within every larger bound, log and source included, and where the
  drop cannot go in circles nothing is broken off.
Main exports: Unbroken, Riverbed.descend_steady, Riverbed.descents_steady,
  Riverbed.rankWithin_steady, Riverbed.Returns, Riverbed.Returns.unique, Riverbed.returns_rank
-/
import DagScheduling.Proofs.Ranking.WaterDrop

namespace DagScheduling

variable {σ α β S : Type}

/-- The run ended by itself: it was not broken off as an endless walk. -/
def Unbroken (run : Logged (Except (Stopped S) α)) : Prop :=
  ∀ state, run.value ≠ .error { failure := .broken .endlessWalk, state := state }

/-! ### Parts of a run -/

section Parts

variable {first : Course S α} {next other : α → Course S β}

theorem Unbroken.head (unbroken : Unbroken (first >>= next).run) : Unbroken first.run := by
  intro state endless
  have isFirst : outcome first = .error { failure := .broken .endlessWalk, state := state } :=
    endless
  apply unbroken state
  show outcome (first >>= next) = _
  rw [outcome_bind, isFirst, error_bind]

theorem Unbroken.rest (unbroken : Unbroken (first >>= next).run) {value : α}
    (isFirst : outcome first = .ok value) : Unbroken (next value).run := by
  intro state endless
  apply unbroken state
  show outcome (first >>= next) = _
  rw [outcome_bind, isFirst, ok_bind]
  exact endless

/-- What follows counts only for the value that the first part comes to. -/
theorem Course.bind_congr (same : ∀ value, outcome first = .ok value → next value = other value) :
    first >>= next = first >>= other := by
  apply ExceptT.ext
  rw [ExceptT.run_bind, ExceptT.run_bind]
  cases came : first.run.value with
  | ok value =>
      have agrees := congrArg ExceptT.run (same value came)
      apply Logged.ext <;> simp only [Logged.value_bind, Logged.log_bind, came, agrees]
  | error stopped =>
      apply Logged.ext <;> simp only [Logged.value_bind, Logged.log_bind, came]

end Parts

namespace Riverbed

variable [WordSource σ] {bed : Riverbed} {flow : Flow σ} {graph : Graph} {ledger : Ledger}
  {source : σ} {steps fuel more longer count : Nat} {order : List NodeId}

/-! ### More steps -/

theorem descend_steady (unbroken : Unbroken (bed.descend fuel flow).run) (larger : fuel ≤ more) :
    bed.descend more flow = bed.descend fuel flow := by
  induction fuel generalizing flow more with
  | zero => exact absurd rfl (unbroken flow)
  | succ fuel inductionHypothesis =>
      obtain ⟨rest, rfl⟩ := Nat.exists_eq_add_of_le' larger
      rw [descend] at unbroken
      rw [← Nat.add_assoc, descend, descend]
      apply Course.bind_congr
      intro candidates scored
      have unbrokenRest := unbroken.rest scored
      cases candidates with
      | nil => rfl
      | cons first others =>
          apply Course.bind_congr
          intro later stepped
          exact inductionHypothesis (unbrokenRest.rest stepped) (Nat.le_add_left fuel rest)

theorem descents_steady (unbroken : Unbroken (bed.descents steps fuel flow).run)
    (larger : steps ≤ more) (further : fuel ≤ longer) :
    bed.descents more longer flow = bed.descents steps fuel flow := by
  induction fuel generalizing flow longer with
  | zero => exact absurd rfl (unbroken flow)
  | succ fuel inductionHypothesis =>
      obtain ⟨rest, rfl⟩ := Nat.exists_eq_add_of_le' further
      rw [descents] at unbroken
      rw [← Nat.add_assoc, descents, descents, descend_steady unbroken.head larger]
      apply Course.bind_congr
      intro landed descended
      have unbrokenRest := unbroken.rest descended
      by_cases atRoot : landed.drop.current = root
      · rw [if_pos atRoot, if_pos atRoot]
      · rw [if_neg atRoot] at unbrokenRest
        rw [if_neg atRoot, if_neg atRoot]
        apply Course.bind_congr
        intro later retired
        exact inductionHypothesis (unbrokenRest.rest retired) (Nat.le_add_left fuel rest)

/-- Once the steps are enough, more of them change nothing. -/
theorem rankWithin_steady (unbroken : Unbroken (bed.rankWithin steps graph ledger source))
    (larger : steps ≤ more) :
    bed.rankWithin more graph ledger source = bed.rankWithin steps graph ledger source := by
  by_cases priced : bed.costs.size = graph.nodeCount
  · rw [rankWithin_eq_run priced] at unbroken
    rw [rankWithin_eq_run priced, rankWithin_eq_run priced,
      descents_steady unbroken larger larger]
  · rw [rankWithin_of_unpriced priced, rankWithin_of_unpriced priced]

/-! ### Runs that come back -/

/-- The ranking comes back with this run, however many steps that takes. -/
def Returns (bed : Riverbed) (graph : Graph) (ledger : Ledger) (source : σ)
    (run : Logged (Except (Stopped (Flow σ)) (Flow σ))) : Prop :=
  ∃ steps, run = bed.rankWithin steps graph ledger source ∧ Unbroken run

theorem Returns.unique {run other : Logged (Except (Stopped (Flow σ)) (Flow σ))}
    (one : bed.Returns graph ledger source run) (two : bed.Returns graph ledger source other) :
    run = other := by
  obtain ⟨steps, rfl, unbroken⟩ := one
  obtain ⟨more, rfl, unbrokenOther⟩ := two
  rcases Nat.le_total steps more with larger | smaller
  · exact (rankWithin_steady unbroken larger).symm
  · exact rankWithin_steady unbrokenOther smaller

/-- Without a cycle below the root every ranking comes back. -/
theorem returns_rank (fits : bed.Fits graph) (issued : ledger.Issued count order)
    (acyclic : graph.AcyclicBelow root)
    (present : ∀ v, graph.Below root v → graph.isRemoved v = false) :
    bed.Returns graph ledger source (bed.rank graph ledger source) := by
  refine ⟨graph.nodeCount + 1, rfl, ?_⟩
  intro state endless
  rcases bed.rank_ends source fits issued acyclic present with ⟨final, -, ended, -⟩ | stops
  · cases endless.symm.trans ended
  · obtain ⟨stopped, node, isError, cause, -⟩ := stops
    cases endless.symm.trans isError
    cases cause

end Riverbed

end DagScheduling
