/-
Module: DagScheduling.Proofs.Simulation.Planning
Purpose: A simulation's planning is planning under the configuration that its arguments denote. Its
  tasks are given their priorities if that succeeds, and stay as they are if anything fails.
Main exports: Simulation.Report.ofPlanned, Simulation.planPriorities_of_denotes,
  Simulation.planPriorities_as_denoted
-/
import DagScheduling.Proofs.Planning.Replanning
import DagScheduling.Proofs.Simulation.Arguments
import DagScheduling.Simulation.Requests

namespace DagScheduling.Simulation

variable {σ : Type} [SeedableSource σ] {entropy : σ} {given : Option Arguments}
  {tasks : List Task} {config : PlanningConfig} {cause : ConfigError} {priorities : Priorities}

/-! ### One request -/

/-- What a simulation is told of planning under a configuration, and its tasks afterwards. -/
def Report.ofPlanned (tasks : List Task) (planned : Planned) : Report :=
  match planned.result with
  | .error failure => { result := .error (failure.restate PlanningError.message), tasks := tasks }
  | .ok priorities =>
      { result := .ok priorities.pairs, tasks := writePriorities priorities tasks }

/-- To state no arguments is to state an empty set of them. -/
theorem settings_eq (given : Option Arguments) :
    (given.map Arguments.toSettings).getD (Settings.ofConfig {}) = (given.getD {}).toSettings := by
  cases given <;> rfl

theorem planPriorities_of_refused (refused : (given.getD {}).Refused cause) :
    planPriorities entropy (given.map Arguments.toSettings) tasks =
      pure { result := .error (.reported cause.message), tasks := tasks } := by
  rw [planPriorities, settings_eq, Arguments.toConfig_of_refused refused]

theorem planPriorities_of_denotes (denotes : (given.getD {}).Denotes config) :
    planPriorities entropy (given.map Arguments.toSettings) tasks =
      Report.ofPlanned tasks <$> DagScheduling.planPriorities entropy config tasks := by
  rw [planPriorities, settings_eq, Arguments.toConfig_of_denotes denotes, ← bind_pure_comp]
  apply bind_congr
  intro planned
  rw [Report.ofPlanned]
  cases planned.result <;> rfl

/-! ### What planning comes to -/

theorem result_planPriorities (entropy : σ) (config : PlanningConfig) (tasks : List Task) :
    (DagScheduling.planPriorities entropy config tasks).value.result =
      (rankTasks entropy config tasks).value := by
  rw [value_planPriorities]
  cases (rankTasks entropy config tasks).value <;> rfl

/-- What a simulation is told of complete priorities: those of all tasks in the order of
their numbers. -/
theorem pairs_of_rankTasks (planned : (rankTasks entropy config tasks).value = .ok priorities) :
    priorities.pairs.map Prod.fst = List.range' 1 tasks.length := by
  rcases rankTasks_cases entropy config tasks with ⟨cause, failed⟩ | ⟨order, ordered, complete⟩
  · exact nomatch failed.symm.trans planned
  · cases ordered.symm.trans planned
    rw [Priorities.map_fst_pairs, Priorities.size_ofOrder, length_of_complete complete]

theorem reported_of_rankTasks {failure : Failure PlanningError}
    (failed : (rankTasks entropy config tasks).value = .error failure) :
    ∃ cause, failure = .reported cause := by
  rcases rankTasks_cases entropy config tasks with ⟨cause, reported⟩ | ⟨order, ordered, -⟩
  · cases reported.symm.trans failed
    exact ⟨cause, rfl⟩
  · exact nomatch ordered.symm.trans failed

/-! ### Every request -/

/-- Arguments whose names are unknown are refused with the text that says so, the algorithm's before
the selection mode's; all others denote one configuration, each part of which is as stated or else
as by default. A simulation's planning is then planning under that configuration and logs the same.
If it fails, it reports an error, whose text the simulation is told, and no task changes. If it
succeeds, the simulation is told the priorities of the tasks 1 to N, and every task is given its
own, with nothing else of it changed. -/
theorem planPriorities_as_denoted (entropy : σ) (given : Option Arguments)
    (tasks : List Task) :
    let arguments := given.getD {}
    let answer := planPriorities entropy (given.map Arguments.toSettings) tasks
    (∀ cause, arguments.Refused cause →
      answer = pure { result := .error (.reported cause.message), tasks := tasks }) ∧
    ((∃! config, arguments.Denotes config) ↔ ¬ ∃ cause, arguments.Refused cause) ∧
    ∀ config, arguments.Denotes config →
      let planned := DagScheduling.planPriorities entropy config tasks
      answer.log = planned.log ∧
      (∀ failure, planned.value.result = .error failure →
        ∃ cause, failure = .reported cause ∧
          answer.value.result = .error (.reported cause.message) ∧ answer.value.tasks = tasks) ∧
      ∀ priorities, planned.value.result = .ok priorities →
        ∃ pairs, answer.value.result = .ok pairs ∧
          pairs.map Prod.fst = List.range' 1 tasks.length ∧
          (∀ task priority, (task, priority) ∈ pairs ↔ priorities.get? task = some priority) ∧
          List.Forall₂ (Task.Ranked priorities) tasks answer.value.tasks := by
  intro arguments answer
  refine ⟨fun _ => planPriorities_of_refused, arguments.denotes_iff_not_refused, ?_⟩
  intro config denotes planned
  have same : answer = Report.ofPlanned tasks <$> planned := planPriorities_of_denotes denotes
  refine ⟨by rw [same, Logged.log_map], ?failed, ?succeeded⟩
  case failed =>
    intro failure failed
    have inRanking := (result_planPriorities entropy config tasks).symm.trans failed
    obtain ⟨cause, rfl⟩ := reported_of_rankTasks inRanking
    rw [same, Logged.value_map, Report.ofPlanned, failed]
    exact ⟨cause, rfl, rfl, rfl⟩
  case succeeded =>
    intro priorities succeeded
    have inRanking := (result_planPriorities entropy config tasks).symm.trans succeeded
    rw [same, Logged.value_map, Report.ofPlanned, succeeded]
    exact ⟨_, rfl, pairs_of_rankTasks inRanking, fun _ _ => Priorities.mem_pairs,
      ranked_writePriorities inRanking⟩

/-- Neither name is known. -/
private def unknownNames : Arguments :=
  { algorithm := some "fastest", selection := some "luck" }

/-- An algorithm by its second name, and one constant. -/
private def unscaled : Arguments :=
  { algorithm := some "iwd"
    coefficient := fun coefficient => if coefficient = .costScale then some 0.0 else none }

private def unscaledConfig : PlanningConfig :=
  .usingWaterDrop { coefficients := { costScale := 0.0 } }

/-- Both choices by their second names, a seed, a level and two constants. -/
private def tuned : Arguments :=
  { algorithm := some "iwd"
    selection := some "best"
    seed := some 7
    verbosity := some 1
    coefficient := fun coefficient =>
      match coefficient with
      | .learningRate => some 0.25
      | .costScale => some 500.0
      | _ => none }

private def tunedConfig : PlanningConfig where
  algorithm := .waterDrop
  waterDrop :=
    { coefficients := { learningRate := 0.25, costScale := 500.0 }
      selection := .greedy
      seed := some 7 }
  verbosity := 1

/-- Related tasks, two of which had the same priority before. -/
private def requested : List Task :=
  [{ id := 1, childIds := [3, 2], priority := some 9 }, { id := 2, cost := 5.0 },
    { id := 3, parentIds := [1], priority := some 9 }, { id := 4, parentIds := [3, 2] }]

/-- Names that are refused, a constant that planning refuses, and related tasks that
are planned by default and under settings of the caller's own. -/
theorem planPriorities_as_denoted_cases :
    let answer (given : Option Arguments) :=
      planPriorities (Xoshiro.ofSeed 1) (given.map Arguments.toSettings) requested
    let complete (given : Option Arguments) : Prop :=
      ∃ pairs priorities, (answer given).value.result = .ok pairs ∧
        pairs.map Prod.fst = [1, 2, 3, 4] ∧
        (∀ task priority, (task, priority) ∈ pairs ↔ priorities.get? task = some priority) ∧
        List.Forall₂ (Task.Ranked priorities) requested (answer given).value.tasks
    answer (some unknownNames) =
      pure
        { result := .error (.reported "Unknown ranking algorithm: fastest"), tasks := requested } ∧
    ((answer (some unscaled)).value.result =
        .error (.reported "Invalid value for cost_scale: 0") ∧
      (answer (some unscaled)).value.tasks = requested) ∧
    complete none ∧ complete (some tuned) := by
  intro answer complete
  have byDefault : Arguments.Denotes {} {} := {
    algorithm := rfl
    selection := rfl
    seed := rfl
    verbosity := rfl
    coefficients := fun _ => rfl }
  have asTuned : tuned.Denotes tunedConfig := {
    algorithm := rfl
    selection := rfl
    seed := rfl
    verbosity := rfl
    coefficients := by
      intro coefficient
      cases coefficient <;> rfl }
  have planned (given : Option Arguments) (config : PlanningConfig)
      (denotes : (given.getD {}).Denotes config) (valid : config.validate = .ok ()) :
      complete given := by
    obtain ⟨graph, accepted⟩ : ∃ graph, buildGraph requested 1.0 = .ok graph := ⟨_, rfl⟩
    obtain ⟨order, ordered, -, -⟩ := rankTasks_ok (Xoshiro.ofSeed 1) valid accepted
    have succeeded := (result_planPriorities (Xoshiro.ofSeed 1) config requested).trans ordered
    obtain ⟨-, -, asDenoted⟩ := planPriorities_as_denoted (Xoshiro.ofSeed 1) given requested
    obtain ⟨-, -, told⟩ := asDenoted config denotes
    obtain ⟨pairs, result, keys, entries, written⟩ := told _ succeeded
    exact ⟨pairs, _, result, keys, entries, written⟩
  refine ⟨?refused, ?invalid, planned none {} byDefault rfl,
    planned (some tuned) tunedConfig asTuned rfl⟩
  case refused =>
    exact (planPriorities_as_denoted (Xoshiro.ofSeed 1) (some unknownNames) requested).1
      (.unknownAlgorithm "fastest") (.algorithm rfl)
  case invalid =>
    obtain ⟨-, -, planned⟩ := planPriorities_as_denoted (Xoshiro.ofSeed 1) (some unscaled) requested
    have denotes : unscaled.Denotes unscaledConfig := {
      algorithm := rfl
      selection := rfl
      seed := rfl
      verbosity := rfl
      coefficients := by
        intro coefficient
        cases coefficient <;> rfl }
    have invalid : unscaledConfig.validate = .error (.invalidParameter "cost_scale" 0.0) := rfl
    have failed := (result_planPriorities (Xoshiro.ofSeed 1) unscaledConfig requested).trans
      (rankTasks_invalid _ _ invalid)
    obtain ⟨-, told, -⟩ := planned unscaledConfig denotes
    obtain ⟨cause, same, text, unchanged⟩ := told _ failed
    cases same
    exact ⟨text, unchanged⟩

end DagScheduling.Simulation
