/-
Module: DagScheduling.Proofs.Ranking.Outcome
Purpose: What a logged computation that may fail comes to, its log left aside.
Main exports: outcome, outcome_bind, outcome_lift, outcome_orStop_ok, outcome_orStop_error,
  outcome_orBreach_ok, outcome_orBreach_error, of_outcome_orStop, of_outcome_orBreach,
  follows_orStop, follows_orBreach
-/
import DagScheduling.Ranking.Course
import DagScheduling.Proofs.Except

namespace DagScheduling

variable {ε α β S : Type}

/-- The value or the failure that a computation ends with. -/
def outcome (computation : ExceptT ε Logged α) : Except ε α :=
  computation.run.value

@[simp] theorem outcome_pure (value : α) : outcome (pure value : ExceptT ε Logged α) = .ok value :=
  rfl

/-- Notes, and whatever else cannot fail, are passed over. -/
@[simp] theorem outcome_lift (logged : Logged α) :
    outcome (liftM logged : ExceptT ε Logged α) = .ok logged.value :=
  rfl

@[simp] theorem outcome_bind (first : ExceptT ε Logged α) (next : α → ExceptT ε Logged β) :
    outcome (first >>= next) = outcome first >>= fun value => outcome (next value) := by
  show (ExceptT.run (first >>= next)).value = _
  rw [ExceptT.run_bind, Logged.value_bind]
  unfold outcome
  cases first.run.value <;> rfl

@[simp] theorem outcome_orStop_ok (state : S) (value : α) :
    outcome (orStop state (.ok value)) = .ok value :=
  rfl

@[simp] theorem outcome_orStop_error (state : S) (cause : RankingError) :
    outcome (orStop state (.error cause) : Course S α) =
      .error { failure := .reported cause, state := state } :=
  rfl

@[simp] theorem outcome_orBreach_ok (state : S) (value : α) :
    outcome (orBreach state (.ok value)) = .ok value :=
  rfl

@[simp] theorem outcome_orBreach_error (state : S) (cause : Breach) :
    outcome (orBreach state (.error cause) : Course S α) =
      .error { failure := .broken cause, state := state } :=
  rfl

theorem of_outcome_orStop {state : S} {result : Except RankingError α} {value : α}
    (ok : outcome (orStop state result) = .ok value) : result = .ok value := by
  cases result with
  | ok found => exact congrArg Except.ok (Except.ok.inj ok)
  | error cause => exact nomatch ok

theorem of_outcome_orBreach {state : S} {result : Except Breach α} {value : α}
    (ok : outcome (orBreach state result) = .ok value) : result = .ok value := by
  cases result with
  | ok found => exact congrArg Except.ok (Except.ok.inj ok)
  | error cause => exact nomatch ok

section SideBySide

variable {T α' : Type} {related : α → α' → Prop} {state : S} {stateOther : T}

theorem follows_orStop {first : Except RankingError α} {second : Except RankingError α'}
    (follows : Follows related first second) :
    Follows related (outcome (orStop state first)) (outcome (orStop stateOther second)) := by
  intro value ended
  obtain ⟨other, isOther, holds⟩ := follows value (of_outcome_orStop ended)
  rw [isOther]
  exact ⟨other, rfl, holds⟩

theorem follows_orBreach {first : Except Breach α} {second : Except Breach α'}
    (follows : Follows related first second) :
    Follows related (outcome (orBreach state first)) (outcome (orBreach stateOther second)) := by
  intro value ended
  obtain ⟨other, isOther, holds⟩ := follows value (of_outcome_orBreach ended)
  rw [isOther]
  exact ⟨other, rfl, holds⟩

end SideBySide

end DagScheduling
