/-
Module: DagScheduling.Proofs.Planning.Verbosity
Purpose: The verbosity selects the lines that are logged and decides nothing else, in planning, in
  the rankings and in dispatch, whether a run succeeds or fails.
Main exports: PlanningConfig.heardAt, retitle, OneRun, NamesLevel, rankTasks_heardAt,
  rankTasks_namesLevel, verbosity_only_filters
-/
import DagScheduling.Proofs.Dispatch.Verbosity
import DagScheduling.Proofs.Log.Lines
import DagScheduling.Proofs.Planning.Totality
import DagScheduling.Proofs.Ranking.Verbosity

namespace DagScheduling

variable {α S σ : Type} [SeedableSource σ] {config : PlanningConfig} {tasks : List Task}
  {graph : Graph}

/-- The same configuration at another verbosity. -/
def PlanningConfig.heardAt (config : PlanningConfig) (verbosity : Verbosity) : PlanningConfig :=
  { config with verbosity := verbosity }

/-- The opening line of a planning run names the level at which it is read; no
other line tells of the verbosity. -/
def retitle (verbosity : Verbosity) : List Event → List Event
  | .rankingStarted taskCount algorithm _ :: rest =>
      .rankingStarted taskCount algorithm (levelName verbosity) :: rest
  | events => events

/-- The line that opens a planning run. -/
def openingLine (taskCount : Nat) (algorithm levelName : String) : String :=
  "[iwd-sched changes] " ++
    s!"Ranking {taskCount} tasks with {algorithm} (log level {levelName})"

theorem Event.line_rankingStarted (taskCount : Nat) (algorithm levelName : String) :
    (Event.rankingStarted taskCount algorithm levelName).line =
      openingLine taskCount algorithm levelName :=
  Event.line_eq _

/-- At any two verbosities a computation comes to the same value, and what it logs
is what the verbosity admits of the log at the last level, once its lines have been
adjusted to the verbosity. Of the lines written, the tags tell which these are. -/
structure OneRun (adjust : Verbosity → List Event → List Event)
    (computed : Verbosity → Logged α) : Prop where
  value_eq : ∀ first second, (computed second).value = (computed first).value
  log_eq : ∀ verbosity, (computed verbosity).log =
    (adjust verbosity (computed 3).log).filter fun event => event.level.shownAt verbosity
  lines_eq : ∀ verbosity, (computed verbosity).log.map Event.line =
    ((adjust verbosity (computed 3).log).map Event.line).filter (shownByTag verbosity)

/-- As each line begins with the tag of its level, what holds of the log holds of
its lines. -/
theorem OneRun.of_log {adjust : Verbosity → List Event → List Event}
    {computed : Verbosity → Logged α}
    (value_eq : ∀ first second, (computed second).value = (computed first).value)
    (log_eq : ∀ verbosity, (computed verbosity).log =
      (adjust verbosity (computed 3).log).filter fun event => event.level.shownAt verbosity) :
    OneRun adjust computed := by
  refine ⟨value_eq, log_eq, ?_⟩
  intro verbosity
  have byTag : shownByTag verbosity ∘ Event.line = fun event => event.level.shownAt verbosity :=
    funext (shownByTag_line verbosity)
  rw [List.filter_map, byTag, log_eq]

/-- Where no line tells of the verbosity none has to be adjusted. -/
theorem OnlyFilters.oneRun {computed : Verbosity → Logged α} (filters : OnlyFilters computed) :
    OneRun (fun _ events => events) computed := by
  apply OneRun.of_log
  · intro first second
    rw [filters.eq_seenAt second, filters.eq_seenAt first]
    rfl
  · intro verbosity
    exact congrArg Logged.log (filters.eq_seenAt verbosity)

theorem OneRun.map {β : Type} {adjust : Verbosity → List Event → List Event}
    {computed : Verbosity → Logged α} (run : OneRun adjust computed) (view : α → β) :
    OneRun adjust fun verbosity => view <$> computed verbosity := by
  apply OneRun.of_log
  · intro first second
    exact congrArg view (run.value_eq first second)
  · intro verbosity
    simp only [Logged.log_map]
    exact run.log_eq verbosity

theorem WidestPath.bestPath_filters (graph : Graph) :
    OnlyFilters fun verbosity => WidestPath.bestPath verbosity graph :=
  (WidestPath.descent_filters graph).bind fun _ => .pure _

/-! ### Planning -/

theorem orFail_filters {ε : Type} (restate : ε → PlanningError) (result : Except ε α) :
    OnlyFilters fun _ => (orFail restate result).run := by
  apply OnlyFilters.of_silent
  cases result <;> rfl

theorem orFailRanking_filters {ranked : Verbosity → Logged (Except (Stopped S) S)}
    (filters : OnlyFilters ranked) :
    OnlyFilters fun verbosity => (orFailRanking (ranked verbosity)).run := by
  apply OnlyFilters.bind_run (.lift_run filters)
  intro result
  cases result with
  | ok state => exact .pure_run state
  | error stopped => exact .throw_run _

theorem fillLedger_filters (entropy : σ) (config : PlanningConfig) (tasks : List Task)
    (graph : Graph) :
    OnlyFilters fun verbosity =>
      (fillLedger entropy (config.heardAt verbosity) tasks graph).run := by
  simp only [fillLedger, PlanningConfig.heardAt]
  cases config.algorithm with
  | widestPath =>
      apply OnlyFilters.bind_run (orFailRanking_filters (WidestPath.rank_filters graph _))
      intro standing
      exact .pure_run standing.ledger
  | waterDrop =>
      let bed : Riverbed := { params := config.waterDrop, costs := costTable tasks }
      apply OnlyFilters.bind_run (orFailRanking_filters (bed.rank_filters graph _ _))
      intro flow
      exact OnlyFilters.bind_run (.note_run _) fun _ => .pure_run flow.ledger

/-- What planning does once the graph stands and the start is logged. -/
def planOn (entropy : σ) (config : PlanningConfig) (tasks : List Task) (graph : Graph) :
    Planning Priorities := do
  let ledger ← fillLedger entropy config tasks graph
  let priorities ← orFail .ofRanking ledger.toPriorities
  orFail id (requireDistinct priorities)

theorem planOn_filters (entropy : σ) (config : PlanningConfig) (tasks : List Task)
    (graph : Graph) :
    OnlyFilters fun verbosity => (planOn entropy (config.heardAt verbosity) tasks graph).run := by
  apply OnlyFilters.bind_run (fillLedger_filters entropy config tasks graph)
  intro ledger
  apply OnlyFilters.bind_run (orFail_filters _ ledger.toPriorities)
  intro priorities
  exact orFail_filters id (requireDistinct priorities)

theorem rankTasks_of_accepted (entropy : σ) (valid : config.validate = .ok ())
    (accepted : buildGraph tasks 1.0 = .ok graph) :
    rankTasks entropy config tasks =
      note config.verbosity
        (.rankingStarted tasks.length config.algorithm.name (levelName config.verbosity)) >>=
      fun _ => (planOn entropy config tasks graph).run := by
  rw [rankTasks, valid, accepted]
  exact ExceptT.run_bind_lift _ _

/-- A run that is refused before it starts logs nothing. -/
theorem OneRun.of_refused (value : α) : OneRun retitle fun _ => (pure value : Logged α) :=
  .of_log (fun _ _ => rfl) fun _ => rfl

/-- A run that logs its start and then lines that do not tell of the verbosity. -/
theorem OneRun.of_opening (taskCount : Nat) (algorithm : String)
    {computed rest : Verbosity → Logged α} (filters : OnlyFilters rest)
    (opened : ∀ verbosity, computed verbosity =
      note verbosity (.rankingStarted taskCount algorithm (levelName verbosity)) >>=
        fun _ => rest verbosity) : OneRun retitle computed := by
  apply OneRun.of_log
  · intro first second
    simp only [opened, Logged.value_bind]
    exact filters.oneRun.value_eq first second
  · intro verbosity
    simp only [opened, Logged.log_bind, filters.oneRun.log_eq verbosity]
    exact (List.filter_append _ _).symm

/-- A computation that logs anything opens its log with a line that names the level. -/
def NamesLevel (taskCount : Nat) (algorithm : String) (computed : Verbosity → Logged α) : Prop :=
  ∀ verbosity, 1 ≤ verbosity → (computed verbosity).log = [] ∨
    ∃ rest, (computed verbosity).log.map Event.line =
      openingLine taskCount algorithm (levelName verbosity) :: rest

theorem NamesLevel.map {β : Type} {taskCount : Nat} {algorithm : String}
    {computed : Verbosity → Logged α} (named : NamesLevel taskCount algorithm computed)
    (view : α → β) :
    NamesLevel taskCount algorithm fun verbosity => view <$> computed verbosity := by
  intro verbosity heard
  rw [Logged.log_map]
  exact named verbosity heard

theorem rankTasks_namesLevel (entropy : σ) (config : PlanningConfig) (tasks : List Task) :
    NamesLevel tasks.length config.algorithm.name
      fun verbosity => rankTasks entropy (config.heardAt verbosity) tasks := by
  intro verbosity heard
  dsimp only
  cases checked : config.validate with
  | error cause =>
      have invalid : (config.heardAt verbosity).validate = .error cause := checked
      rw [rankTasks_of_invalid entropy tasks invalid]
      exact Or.inl rfl
  | ok =>
      have valid : (config.heardAt verbosity).validate = .ok () := checked
      cases built : buildGraph tasks 1.0 with
      | error cause =>
          rw [rankTasks_of_refused entropy valid built]
          exact Or.inl rfl
      | ok graph =>
          have loud : 1 ≤ (config.heardAt verbosity).verbosity := heard
          rw [rankTasks_of_accepted entropy valid built, Logged.log_bind, log_note loud rfl,
            List.map_append, List.map_singleton, Event.line_rankingStarted]
          exact Or.inr ⟨_, rfl⟩

/-- Planning runs alike at every verbosity. -/
theorem rankTasks_heardAt (entropy : σ) (config : PlanningConfig) (tasks : List Task) :
    OneRun retitle fun verbosity => rankTasks entropy (config.heardAt verbosity) tasks := by
  cases checked : config.validate with
  | error cause =>
      have refused (verbosity : Verbosity) : rankTasks entropy (config.heardAt verbosity) tasks =
          pure (.error (.reported (.config cause))) :=
        rankTasks_of_invalid entropy tasks checked
      simp only [refused]
      exact .of_refused _
  | ok =>
      cases built : buildGraph tasks 1.0 with
      | error cause =>
          have refused (verbosity : Verbosity) :
              rankTasks entropy (config.heardAt verbosity) tasks =
                pure (.error (.reported cause)) :=
            rankTasks_of_refused entropy checked built
          simp only [refused]
          exact .of_refused _
      | ok graph =>
          apply OneRun.of_opening tasks.length config.algorithm.name
            (planOn_filters entropy config tasks graph)
          intro verbosity
          exact rankTasks_of_accepted entropy checked built

/-- What planning makes of the outcome of ranking. -/
def Planned.ofRanking (tasks : List Task) :
    Except (Failure PlanningError) Priorities → Planned
  | .ok priorities => { result := .ok priorities, tasks := writePriorities priorities tasks }
  | .error failure => { result := .error failure, tasks := tasks }

theorem planPriorities_eq_map (entropy : σ) (config : PlanningConfig) (tasks : List Task) :
    planPriorities entropy config tasks =
      Planned.ofRanking tasks <$> rankTasks entropy config tasks := by
  rw [planPriorities, ← bind_pure_comp]
  congr 1
  funext result
  cases result <;> rfl

theorem planPriorities_heardAt (entropy : σ) (config : PlanningConfig) (tasks : List Task) :
    OneRun retitle fun verbosity => planPriorities entropy (config.heardAt verbosity) tasks := by
  simp only [planPriorities_eq_map]
  exact (rankTasks_heardAt entropy config tasks).map (Planned.ofRanking tasks)

/-! ### Every call -/

/-- The verbosity of a call only selects lines. At any two verbosities planning, the
rankings, the widest path and a dispatch cycle come to the same result, error
or state, and they log what the verbosity admits of the lines logged at level 3, in
their order. One line tells of the verbosity: the one that opens a planning run
names its level. A water drop that may go in circles comes back at one verbosity
just if it does at the others, and within any number of steps has done the same. -/
theorem verbosity_only_filters :
    (∀ (σ : Type) [SeedableSource σ] (entropy : σ) (config : PlanningConfig) (tasks : List Task),
      let ranked verbosity := rankTasks entropy (config.heardAt verbosity) tasks
      let planned verbosity := planPriorities entropy (config.heardAt verbosity) tasks
      OneRun retitle ranked ∧ NamesLevel tasks.length config.algorithm.name ranked ∧
        OneRun retitle planned ∧ NamesLevel tasks.length config.algorithm.name planned) ∧
    (∀ (graph : Graph) (ledger : Ledger),
      OneRun (fun _ events => events) (fun verbosity => WidestPath.rank verbosity graph ledger) ∧
      OneRun (fun _ events => events) (fun verbosity => WidestPath.bestPath verbosity graph) ∧
      ∀ (σ : Type) [WordSource σ] (bed : Riverbed) (source : σ),
        (∀ steps, OneRun (fun _ events => events)
          fun verbosity => (bed.heardAt verbosity).rankWithin steps graph ledger source) ∧
        ∀ verbosity run, (bed.heardAt verbosity).Returns graph ledger source run ↔
          ∃ full, (bed.heardAt 3).Returns graph ledger source full ∧
            run = full.seenAt verbosity) ∧
    ∀ (ready : List TaskId) (priorities : Priorities) (resources : List Resource),
      OneRun (fun _ events => events)
        fun verbosity => dispatch ready priorities resources verbosity := by
  refine ⟨?planning, ?ranking, ?dispatching⟩
  case planning =>
    intro σ _ entropy config tasks ranked planned
    have named := rankTasks_namesLevel entropy config tasks
    have namedPlan : NamesLevel tasks.length config.algorithm.name planned := by
      simp only [planned, planPriorities_eq_map]
      exact named.map (Planned.ofRanking tasks)
    exact ⟨rankTasks_heardAt entropy config tasks, named,
      planPriorities_heardAt entropy config tasks, namedPlan⟩
  case ranking =>
    intro graph ledger
    refine ⟨(WidestPath.rank_filters graph ledger).oneRun,
      (WidestPath.bestPath_filters graph).oneRun, ?_⟩
    intro σ _ bed source
    exact ⟨fun steps => (bed.rankWithin_filters steps graph ledger source).oneRun,
      bed.returns_iff graph ledger source⟩
  case dispatching =>
    intro ready priorities resources
    exact (dispatch_filters ready priorities resources).oneRun

end DagScheduling
