/-
Module: DagScheduling.Proofs.Log.Verbosity
Purpose: What a verbosity decides: which lines are kept, and nothing about the value. The lines
  kept are a selection of one full log.
Main exports: Logged.seenAt, OnlyFilters, OnlyFilters.bind, OnlyFilters.bind_run,
  Level.shownAt_of_le
-/
import DagScheduling.Ranking.Course
import Mathlib.Tactic.Choose

namespace DagScheduling

variable {α β ε S : Type}

/-- A logged computation with the lines that a verbosity admits. -/
def Logged.seenAt (logged : Logged α) (verbosity : Verbosity) : Logged α where
  value := logged.value
  log := logged.log.filter fun event => event.level.shownAt verbosity

theorem Logged.seenAt_bind (first : Logged α) (next : α → Logged β) (verbosity : Verbosity) :
    (first >>= next).seenAt verbosity =
      first.seenAt verbosity >>= fun value => (next value).seenAt verbosity := by
  apply Logged.ext
  · rfl
  · exact List.filter_append _ _

/-- From the last level on everything is shown. -/
theorem Level.shownAt_of_le (level : Level) {verbosity : Verbosity} (loud : 3 ≤ verbosity) :
    level.shownAt verbosity = true := by
  have within : level.threshold ≤ 3 := by cases level <;> decide
  exact decide_eq_true (Nat.le_trans within loud)

theorem Logged.seenAt_of_le (logged : Logged α) {verbosity : Verbosity} (loud : 3 ≤ verbosity) :
    logged.seenAt verbosity = logged := by
  apply Logged.ext
  · rfl
  · exact List.filter_eq_self.mpr fun event _ => event.level.shownAt_of_le loud

/-- From the first level on changes are logged. -/
theorem log_note {verbosity : Verbosity} (heard : 1 ≤ verbosity) {event : Event}
    (change : event.level = .changes) : (note verbosity event).log = [event] := by
  have shown : event.level.shownAt verbosity = true := by
    rw [change]
    exact decide_eq_true heard
  exact List.filter_eq_self.mpr (List.forall_mem_singleton.mpr shown)

@[simp] theorem log_lift (logged : Logged α) :
    (liftM logged : ExceptT ε Logged α).run.log = logged.log :=
  List.append_nil _

@[simp] theorem log_orStop (state : S) (result : Except RankingError α) :
    (orStop state result).run.log = [] := by
  cases result <;> rfl

@[simp] theorem log_orBreach (state : S) (result : Except Breach α) :
    (orBreach state result).run.log = [] := by
  cases result <;> rfl

/-- Whatever the verbosity, what is computed is one and the same, and the log is
what the verbosity admits of one and the same log. -/
def OnlyFilters (computed : Verbosity → Logged α) : Prop :=
  ∃ full : Logged α, ∀ verbosity, computed verbosity = full.seenAt verbosity

namespace OnlyFilters

/-- The full log is that at the greatest verbosity. -/
theorem eq_seenAt {computed : Verbosity → Logged α} (filters : OnlyFilters computed)
    (verbosity : Verbosity) : computed verbosity = (computed 3).seenAt verbosity := by
  obtain ⟨full, same⟩ := filters
  rw [same 3, full.seenAt_of_le (Nat.le_refl 3)]
  exact same verbosity

/-- What logs nothing has nothing to filter. -/
theorem of_silent {logged : Logged α} (silent : logged.log = []) : OnlyFilters fun _ => logged := by
  refine ⟨logged, ?_⟩
  intro verbosity
  apply Logged.ext
  · rfl
  · show logged.log = logged.log.filter _
    rw [silent, List.filter_nil]

protected theorem pure (value : α) : OnlyFilters fun _ => (pure value : Logged α) :=
  of_silent rfl

theorem noteAll (events : List Event) :
    OnlyFilters fun verbosity => DagScheduling.noteAll verbosity events :=
  ⟨{ value := (), log := events }, fun _ => rfl⟩

theorem note (event : Event) : OnlyFilters fun verbosity => DagScheduling.note verbosity event :=
  noteAll [event]

theorem bind {first : Verbosity → Logged α} {next : Verbosity → α → Logged β}
    (one : OnlyFilters first) (two : ∀ value, OnlyFilters fun verbosity => next verbosity value) :
    OnlyFilters fun verbosity => first verbosity >>= next verbosity := by
  obtain ⟨fullFirst, sameFirst⟩ := one
  choose fullNext sameNext using two
  refine ⟨fullFirst >>= fullNext, ?_⟩
  intro verbosity
  show first verbosity >>= next verbosity = _
  rw [Logged.seenAt_bind, sameFirst]
  congr 1
  funext value
  exact sameNext value verbosity

/-! ### Computations that may fail -/

theorem pure_run (value : α) : OnlyFilters fun _ => (pure value : ExceptT ε Logged α).run :=
  of_silent rfl

theorem throw_run (cause : ε) : OnlyFilters fun _ => (throw cause : ExceptT ε Logged α).run :=
  of_silent rfl

theorem orStop_run (state : S) (result : Except RankingError α) :
    OnlyFilters fun _ => (orStop state result).run :=
  of_silent (log_orStop state result)

theorem orBreach_run (state : S) (result : Except Breach α) :
    OnlyFilters fun _ => (orBreach state result).run :=
  of_silent (log_orBreach state result)

theorem lift_run {logged : Verbosity → Logged α} (filters : OnlyFilters logged) :
    OnlyFilters fun verbosity => (liftM (logged verbosity) : ExceptT ε Logged α).run :=
  filters.bind fun _ => of_silent rfl

theorem note_run (event : Event) :
    OnlyFilters fun verbosity =>
      (liftM (DagScheduling.note verbosity event) : ExceptT ε Logged Unit).run :=
  lift_run (note event)

theorem bind_run {first : Verbosity → ExceptT ε Logged α}
    {next : Verbosity → α → ExceptT ε Logged β}
    (one : OnlyFilters fun verbosity => (first verbosity).run)
    (two : ∀ value, OnlyFilters fun verbosity => (next verbosity value).run) :
    OnlyFilters fun verbosity => (first verbosity >>= next verbosity).run := by
  simp only [ExceptT.run_bind]
  apply one.bind
  intro result
  cases result with
  | ok value => exact two value
  | error cause => exact of_silent rfl

end OnlyFilters

end DagScheduling
