/-
Module: DagScheduling.Proofs.Planning.Replanning
Purpose: Planning writes either the priority of every task or nothing. It does not look at the
  priorities that the tasks had, so that a plan that draws nothing of the caller's can be made
  again.
Main exports: Task.unranked, rankTasks_unranked, PlanningConfig.DrawsNoEntropy,
  value_rankTasks_of_drawsNoEntropy, Task.Ranked, planPriorities_all_or_nothing
-/
import DagScheduling.Proofs.Planning.Independence
import DagScheduling.Proofs.Planning.RootPaths
import DagScheduling.Proofs.Planning.Verbosity
import DagScheduling.Proofs.Ranking.Descents

namespace DagScheduling

variable {σ : Type} [SeedableSource σ] {tasks others : List Task} {graph : Graph}
  {priorities : Priorities} {config : PlanningConfig}

/-! ### Earlier priorities -/

/-- The task without a priority. -/
def Task.unranked (task : Task) : Task :=
  { task with priority := none }

theorem checkTasks_unranked (count : Nat) (seen : List TaskId) (tasks : List Task) :
    checkTasks count seen (tasks.map Task.unranked) = checkTasks count seen tasks := by
  induction tasks generalizing seen with
  | nil => rfl
  | cons task rest inductionHypothesis =>
      simp only [List.map_cons, checkTasks, inductionHypothesis]
      rfl

theorem forM_checkReferences_unranked (count : Nat) (tasks : List Task) :
    (tasks.map Task.unranked).forM (checkReferences count) =
      tasks.forM (checkReferences count) := by
  induction tasks with
  | nil => rfl
  | cons task rest inductionHypothesis =>
      rw [List.map_cons, List.forM, List.forM, inductionHypothesis]
      rfl

theorem validateTasks_unranked (tasks : List Task) :
    validateTasks (tasks.map Task.unranked) = validateTasks tasks := by
  simp only [validateTasks, List.isEmpty_map, List.length_map, checkTasks_unranked,
    forM_checkReferences_unranked]

theorem bare_unranked (tasks : List Task) :
    (tasks.map Task.unranked).map Task.bare = tasks.map Task.bare := by
  rw [List.map_map]
  rfl

theorem buildGraph_unranked (tasks : List Task) (weight : Float) :
    buildGraph (tasks.map Task.unranked) weight = buildGraph tasks weight := by
  have sameRelations : relations (tasks.map Task.unranked) = relations tasks := by
    rw [← relations_bare, bare_unranked, relations_bare]
  have sameRoot : rootRelations (tasks.map Task.unranked) = rootRelations tasks := by
    rw [← rootRelations_bare, bare_unranked, rootRelations_bare]
  simp only [buildGraph, validateTasks_unranked, List.length_map, sameRelations, sameRoot]

theorem costTable_unranked (tasks : List Task) :
    costTable (tasks.map Task.unranked) = costTable tasks := by
  rw [costTable, costTable, List.foldl_map, List.length_map]
  rfl

/-- Planning does not look at the priorities that the tasks have. -/
theorem rankTasks_unranked (entropy : σ) (config : PlanningConfig) (tasks : List Task) :
    rankTasks entropy config (tasks.map Task.unranked) = rankTasks entropy config tasks := by
  simp only [rankTasks, fillLedger, buildGraph_unranked, costTable_unranked, List.length_map]

theorem rankTasks_eq_of_unranked (entropy : σ) (config : PlanningConfig)
    (same : others.map Task.unranked = tasks.map Task.unranked) :
    rankTasks entropy config others = rankTasks entropy config tasks := by
  rw [← rankTasks_unranked entropy config others, same, rankTasks_unranked]

/-! ### Draws -/

/-- Planning draws nothing from the caller's entropy: not at all, or from a seed of its own. -/
def PlanningConfig.DrawsNoEntropy (config : PlanningConfig) : Prop :=
  config.algorithm = .widestPath ∨ config.waterDrop.selection = .greedy ∨
    config.waterDrop.seed.isSome = true

theorem outcome_fillLedger_of_drawsNoEntropy (settled : config.DrawsNoEntropy)
    (valid : config.validate = .ok ()) (accepted : buildGraph tasks 1.0 = .ok graph)
    (entropy entropyOther : σ) :
    outcome (fillLedger entropyOther config tasks graph) =
      outcome (fillLedger entropy config tasks graph) := by
  rcases settled with widest | greedy | seeded
  · exact outcome_fillLedger_eq entropy entropyOther widest widest rfl graph
  · cases chosen : config.algorithm with
    | widestPath => exact outcome_fillLedger_eq entropy entropyOther chosen chosen rfl graph
    | waterDrop =>
        obtain ⟨wellFormed, built⟩ := wellFormed_of_buildGraph accepted
        rw [PlanningConfig.validate, chosen] at valid
        have fits : Riverbed.Fits
            { params := config.waterDrop, costs := costTable tasks,
              verbosity := config.verbosity } graph :=
          ⟨(size_costTable tasks).trans built.nodeCount.symm, Coefficients.soilClampMin_le valid⟩
        have slots : ∀ v, graph.Below root v →
              v < (Ledger.ofTaskCount tasks.length).slots.size := by
          intro v below
          rw [(Ledger.issued_ofTaskCount tasks.length).size, ← built.nodeCount]
          exact below.lt_nodeCount
        obtain ⟨final, ended, endedOther⟩ := rank_redirect greedy fits
          (Ledger.issued_ofTaskCount tasks.length) (fun v _ => built.acyclic wellFormed v)
          (fun v _ => built.isRemoved v) slots (generator entropy config.waterDrop.seed)
          (generator entropyOther config.waterDrop.seed)
        simp only [fillLedger, chosen, outcome_bind, outcome_lift,
          outcome_orFailRanking_ok ended, outcome_orFailRanking_ok endedOther, ok_bind]
        rfl
  · obtain ⟨seed, isSeed⟩ := Option.isSome_iff_exists.mp seeded
    simp only [fillLedger, generator, isSeed]

theorem value_rankTasks_of_drawsNoEntropy (settled : config.DrawsNoEntropy)
    (entropy entropyOther : σ) (tasks : List Task) :
    (rankTasks entropyOther config tasks).value = (rankTasks entropy config tasks).value := by
  cases checked : config.validate with
  | error cause => rw [rankTasks_invalid _ tasks checked, rankTasks_invalid _ tasks checked]
  | ok =>
      cases accepted : buildGraph tasks 1.0 with
      | error cause =>
          rw [rankTasks_refused _ checked accepted, rankTasks_refused _ checked accepted]
      | ok graph =>
          obtain ⟨wellFormed, built⟩ := wellFormed_of_buildGraph accepted
          obtain ⟨ledger, order, filled, issued, complete, -⟩ :=
            fillLedger_ok entropy checked wellFormed built
          have filledOther :=
            outcome_fillLedger_of_drawsNoEntropy settled checked accepted entropy entropyOther
          rw [filled] at filledOther
          rw [rankTasks_of_filled checked accepted filledOther issued complete,
            rankTasks_of_filled checked accepted filled issued complete]

/-! ### What is written -/

/-- The task has got its priority, and nothing else of it has changed. -/
def Task.Ranked (priorities : Priorities) (task written : Task) : Prop :=
  ∃ priority, priorities.get? task.id = some priority ∧
    written = { task with priority := some priority }

theorem ranked_writePriorities {entropy : σ}
    (planned : (rankTasks entropy config tasks).value = .ok priorities) :
    List.Forall₂ (Task.Ranked priorities) tasks (writePriorities priorities tasks) := by
  obtain ⟨graph, order, -, goes⟩ := goesBy_of_rankTasks planned
  rw [writePriorities, List.forall₂_map_right_iff, List.forall₂_same]
  intro task member
  obtain ⟨positive, inRange⟩ := goes.wellFormed.admitted.numbered task member
  have given : priorities.get? task.id = some (priorityIn order task.id) := by
    rw [goes.priorities_eq]
    exact Priorities.get?_ofOrder positive (goes.length_eq.symm ▸ inRange)
  exact ⟨_, given, by rw [given]⟩

theorem writePriorities_unranked (priorities : Priorities) (tasks : List Task) :
    (writePriorities priorities tasks).map Task.unranked = tasks.map Task.unranked := by
  rw [writePriorities, List.map_map]
  rfl

/-- Writing the same priorities once more changes nothing. -/
theorem writePriorities_again (priorities : Priorities) (tasks : List Task) :
    writePriorities priorities (writePriorities priorities tasks) =
      writePriorities priorities tasks := by
  rw [writePriorities, writePriorities, List.map_map]
  rfl

theorem value_planPriorities (entropy : σ) (config : PlanningConfig) (tasks : List Task) :
    (planPriorities entropy config tasks).value =
      Planned.ofRanking tasks (rankTasks entropy config tasks).value := by
  rw [planPriorities_eq_map]
  rfl

/-- Whatever planning ends with, it has changed priorities only. -/
theorem unranked_ofRanking (tasks : List Task)
    (result : Except (Failure PlanningError) Priorities) :
    (Planned.ofRanking tasks result).tasks.map Task.unranked = tasks.map Task.unranked := by
  cases result with
  | ok priorities => exact writePriorities_unranked priorities tasks
  | error failure => rfl

theorem ofRanking_again (tasks : List Task)
    (result : Except (Failure PlanningError) Priorities) :
    Planned.ofRanking (Planned.ofRanking tasks result).tasks result =
      Planned.ofRanking tasks result := by
  cases result with
  | ok priorities =>
      simp only [Planned.ofRanking]
      rw [writePriorities_again]
  | error failure => rfl

/-- Planning is all or nothing. If it fails, the tasks are as they were; if it succeeds, every task
has the priority that ranking gives it, and nothing else of the tasks has changed. The priorities
that the tasks had make no difference. So planning the tasks once more comes to the same and
changes nothing, as long as it draws the same: from the same entropy, or from none. -/
theorem planPriorities_all_or_nothing (entropy : σ) (config : PlanningConfig)
    (tasks : List Task) :
    let planned := (planPriorities entropy config tasks).value
    planned.result = (rankTasks entropy config tasks).value ∧
      (∀ failure, planned.result = .error failure → planned.tasks = tasks) ∧
      (∀ priorities, planned.result = .ok priorities →
        List.Forall₂ (Task.Ranked priorities) tasks planned.tasks) ∧
      (∀ others, others.map Task.unranked = tasks.map Task.unranked →
        (planPriorities entropy config others).value.result = planned.result) ∧
      ∀ later, config.DrawsNoEntropy ∨ later = entropy →
        (planPriorities later config planned.tasks).value = planned := by
  intro planned
  have result_eq (entropy : σ) (tasks : List Task) :
      (planPriorities entropy config tasks).value.result =
        (rankTasks entropy config tasks).value := by
    rw [value_planPriorities]
    cases (rankTasks entropy config tasks).value <;> rfl
  have planned_eq : planned = Planned.ofRanking tasks (rankTasks entropy config tasks).value :=
    value_planPriorities entropy config tasks
  refine ⟨result_eq entropy tasks, ?failed, ?succeeded, ?others, ?again⟩
  case failed =>
    intro failure failed
    rw [result_eq entropy tasks] at failed
    rw [planned_eq, failed]
    rfl
  case succeeded =>
    intro priorities succeeded
    rw [result_eq entropy tasks] at succeeded
    rw [planned_eq, succeeded]
    exact ranked_writePriorities succeeded
  case others =>
    intro others same
    rw [result_eq entropy others, result_eq entropy tasks,
      rankTasks_eq_of_unranked entropy config same]
  case again =>
    intro later drawsAlike
    have sameTasks : planned.tasks.map Task.unranked = tasks.map Task.unranked := by
      rw [planned_eq]
      exact unranked_ofRanking tasks _
    have sameResult : (rankTasks later config planned.tasks).value =
        (rankTasks entropy config tasks).value := by
      rw [rankTasks_eq_of_unranked later config sameTasks]
      rcases drawsAlike with settled | same
      · exact value_rankTasks_of_drawsNoEntropy settled entropy later tasks
      · rw [same]
    rw [value_planPriorities, sameResult, planned_eq]
    exact ofRanking_again tasks _

/-- A chain whose tasks had priorities before, planned twice, and a ring, which is refused. -/
theorem planPriorities_all_or_nothing_cases :
    let config : PlanningConfig := .usingWaterDrop { selection := .greedy }
    let chain : List Task := [{ id := 1, childIds := [2], priority := some 9 }, { id := 2 }]
    let ring : List Task :=
      [{ id := 1, childIds := [2], priority := some 9 }, { id := 2, childIds := [1] }]
    let planned := (planPriorities (Xoshiro.ofSeed 1) config chain).value
    (∃ priorities, planned.result = .ok priorities ∧
      List.Forall₂ (Task.Ranked priorities) chain planned.tasks) ∧
    config.DrawsNoEntropy ∧
    (planPriorities (Xoshiro.ofSeed 2) config planned.tasks).value = planned ∧
    (planPriorities (Xoshiro.ofSeed 1) config ring).value.result =
      .error (.reported .circularDependency) ∧
    (planPriorities (Xoshiro.ofSeed 1) config ring).value.tasks = ring := by
  intro config chain ring planned
  have valid : PlanningConfig.validate (.usingWaterDrop { selection := .greedy }) = .ok () := rfl
  obtain ⟨graph, accepted⟩ : ∃ graph, buildGraph chain 1.0 = .ok graph := ⟨_, rfl⟩
  have refused : buildGraph ring 1.0 = .error .circularDependency := rfl
  obtain ⟨order, ranked, -, -⟩ := rankTasks_ok (Xoshiro.ofSeed 1) valid accepted
  obtain ⟨result, -, written, -, again⟩ :=
    planPriorities_all_or_nothing (Xoshiro.ofSeed 1) config chain
  obtain ⟨resultRing, unchanged, -⟩ := planPriorities_all_or_nothing (Xoshiro.ofSeed 1) config ring
  have failed := resultRing.trans (rankTasks_refused (Xoshiro.ofSeed 1) valid refused)
  have settled : config.DrawsNoEntropy := Or.inr (Or.inl rfl)
  exact ⟨⟨_, result.trans ranked, written _ (result.trans ranked)⟩, settled,
    again (Xoshiro.ofSeed 2) (Or.inl settled), failed, unchanged _ failed⟩

end DagScheduling
