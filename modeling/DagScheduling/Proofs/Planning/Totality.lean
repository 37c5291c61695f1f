/-
Module: DagScheduling.Proofs.Planning.Totality
Purpose: Planning of a well-formed list under a valid configuration ends with complete
  priorities, and every other call ends with the error of the configuration or of the list.
Main exports: complete_of_peels, fillLedger_ok, rankTasks_ok, PlanningError.isInternal,
  rankTasks_cases, rankTasks_total
-/
import DagScheduling.Planning.Plan
import DagScheduling.Proofs.Config.Ranges
import DagScheduling.Proofs.Planning.Verdict
import DagScheduling.Proofs.Priority.Order
import DagScheduling.Proofs.Ranking.WaterDrop
import DagScheduling.Proofs.Ranking.WidestPath
import DagScheduling.Random.Xoshiro

namespace DagScheduling

open Ledger (Issued metAll)

variable {σ : Type} [SeedableSource σ] {tasks : List Task} {graph final : Graph} {ledger : Ledger}
  {order : List TaskId} {trace : List (List NodeId)} {config : PlanningConfig}

/-! ### The outcome of a planning step -/

@[simp] theorem outcome_orFail_ok {ε α : Type} (restate : ε → PlanningError) (value : α) :
    outcome (orFail restate (.ok value)) = .ok value :=
  rfl

@[simp] theorem outcome_orFail_error {ε α : Type} (restate : ε → PlanningError) (cause : ε) :
    outcome (orFail restate (.error cause) : Planning α) = .error (.reported (restate cause)) :=
  rfl

theorem outcome_orFailRanking_ok {S : Type} {ranked : Logged (Except (Stopped S) S)} {state : S}
    (ended : ranked.value = .ok state) : outcome (orFailRanking ranked) = .ok state := by
  rw [orFailRanking, outcome_bind, outcome_lift, ok_bind, ended]
  rfl

/-! ### A complete ledger -/

theorem size_costTable (tasks : List Task) : (costTable tasks).size = tasks.length + 1 := by
  have keeps (costs : Array Float) : (tasks.foldl (fun costs task =>
      costs.setIfInBounds task.id task.cost) costs).size = costs.size := by
    induction tasks generalizing costs with
    | nil => rfl
    | cons task rest inductionHypothesis =>
        rw [List.foldl_cons, inductionHypothesis, Array.size_setIfInBounds]
  rw [costTable, keeps, Array.size_replicate]

/-- Passes over the graph of a well-formed list meet all tasks, since all are
below the root, and meet each after a parent. -/
theorem complete_of_peels (wellFormed : WellFormed tasks) (built : BuiltFrom tasks graph)
    (peels : Peels graph trace final)
    (issued : ledger.Issued tasks.length (metAll [] trace.flatten)) :
    ∃ order, ledger.Issued tasks.length order ∧ order.Perm (List.range' 1 tasks.length) ∧
      Grown graph order := by
  refine ⟨_, issued, ?_, peels.grown .start fun _ _ child => child⟩
  apply (List.perm_ext_iff_of_nodup issued.nodup (List.nodup_range' 1)).mpr
  intro v
  constructor
  · intro member
    obtain ⟨notRoot, inRange⟩ := issued.inRange v member
    exact mem_range'_one.mpr ⟨Nat.pos_of_ne_zero notRoot, inRange⟩
  · intro member
    obtain ⟨positive, inRange⟩ := mem_range'_one.mp member
    have below := built.below_root wellFormed v positive inRange
    have notRoot : v ≠ root := Nat.ne_of_gt positive
    exact Ledger.mem_metAll.mpr (Or.inr ⟨peels.mem_flatten_iff.mpr below, notRoot⟩)

/-- Every task has a slot, so that no ranking stops for want of one. -/
theorem not_stopsAtUnknown {S α : Type} {result : Except (Stopped S) α}
    (built : BuiltFrom tasks graph) :
    ¬ StopsAtUnknown (graph.Below root) tasks.length result := by
  rintro ⟨-, v, -, -, below, beyond⟩
  have inRange := below.lt_nodeCount
  rw [built.nodeCount] at inRange
  lia

theorem fillLedger_ok (entropy : σ) (valid : config.validate = .ok ())
    (wellFormed : WellFormed tasks) (built : BuiltFrom tasks graph) :
    ∃ ledger order, outcome (fillLedger entropy config tasks graph) = .ok ledger ∧
      ledger.Issued tasks.length order ∧ order.Perm (List.range' 1 tasks.length) ∧
      Grown graph order := by
  have acyclic : graph.AcyclicBelow root := fun v _ => built.acyclic wellFormed v
  have fresh := Ledger.issued_ofTaskCount tasks.length
  rw [fillLedger]
  cases chosen : config.algorithm with
  | widestPath =>
      rcases WidestPath.rank_ends config.verbosity fresh acyclic with
        ⟨standing, trace, ended, peels, issued, -⟩ | stops
      · obtain ⟨order, issued, complete, grown⟩ := complete_of_peels wellFormed built peels issued
        refine ⟨standing.ledger, order, ?_, issued, complete, grown⟩
        simp only [outcome_bind, outcome_orFailRanking_ok ended, outcome_pure, ok_bind]
      · exact absurd stops (not_stopsAtUnknown built)
  | waterDrop =>
      rw [PlanningConfig.validate, chosen] at valid
      have bounds := Coefficients.soilClampMin_le valid
      have covered := (size_costTable tasks).trans built.nodeCount.symm
      have fits : Riverbed.Fits
          { params := config.waterDrop, costs := costTable tasks, verbosity := config.verbosity }
          graph := ⟨covered, bounds⟩
      rcases Riverbed.rank_ends (generator entropy config.waterDrop.seed) fits fresh acyclic
        (fun v _ => built.isRemoved v) with ⟨flow, trace, ended, peels, issued⟩ | stops
      · obtain ⟨order, issued, complete, grown⟩ := complete_of_peels wellFormed built peels issued
        refine ⟨flow.ledger, order, ?_, issued, complete, grown⟩
        simp only [outcome_bind, outcome_lift, outcome_orFailRanking_ok ended, outcome_pure,
          ok_bind]
      · exact absurd stops (not_stopsAtUnknown built)

/-! ### The last check -/

theorem firstRepeated_eq_none {issued : List Priority} {pairs : List (TaskId × Priority)}
    (positive : ∀ pair ∈ pairs, pair.2 ≠ 0) (new : ∀ pair ∈ pairs, pair.2 ∉ issued)
    (distinct : (pairs.map Prod.snd).Nodup) : firstRepeated issued pairs = none := by
  induction pairs generalizing issued with
  | nil => rfl
  | cons pair rest inductionHypothesis =>
      obtain ⟨task, priority⟩ := pair
      rw [List.forall_mem_cons] at positive new
      rw [List.map_cons, List.nodup_cons] at distinct
      have fresh : ¬ (priority == 0 || issued.contains priority) = true := by
        simp [positive.1, new.1]
      rw [firstRepeated, if_neg fresh]
      apply inductionHypothesis positive.2 _ distinct.2
      intro other member
      rw [List.mem_cons, not_or]
      refine ⟨?_, new.2 other member⟩
      intro same
      exact distinct.1 (List.mem_map.mpr ⟨other, member, same⟩)

theorem requireDistinct_ofOrder (complete : order.Perm (List.range' 1 order.length)) :
    requireDistinct (Priorities.ofOrder order) = .ok (Priorities.ofOrder order) := by
  have values : (Priorities.ofOrder order).pairs.map Prod.snd =
      (List.range' 1 order.length).map (priorityIn order) := by
    rw [Priorities.pairs_ofOrder, List.map_map]
    rfl
  have same : ((List.range' 1 order.length).map (priorityIn order)).Perm
      (List.range' 1 order.length) := Priorities.values_ofOrder_perm complete
  have accepted : firstRepeated [] (Priorities.ofOrder order).pairs = none := by
    apply firstRepeated_eq_none
    · intro pair member
      have issued := List.mem_map_of_mem (f := Prod.snd) member
      rw [values, same.mem_iff, mem_range'_one] at issued
      exact Nat.ne_of_gt issued.1
    · simp
    · rw [values]
      exact nodup_of_complete same
  rw [requireDistinct, accepted]

/-- What planning gives once the ledger is filled. -/
theorem rankTasks_of_filled {entropy : σ} (valid : config.validate = .ok ())
    (accepted : buildGraph tasks 1.0 = .ok graph)
    (filled : outcome (fillLedger entropy config tasks graph) = .ok ledger)
    (issued : ledger.Issued tasks.length order)
    (complete : order.Perm (List.range' 1 tasks.length)) :
    (rankTasks entropy config tasks).value = .ok (Priorities.ofOrder order) := by
  have length := length_of_complete complete
  have distinct := requireDistinct_ofOrder (length ▸ complete)
  have listed := issued.toPriorities_eq complete
  show outcome _ = _
  simp only [outcome_bind, outcome_lift, ok_bind, valid, accepted, outcome_orFail_ok, filled,
    listed, distinct]

/-- Planning goes by an order in which every task comes after a parent. -/
theorem rankTasks_ok (entropy : σ) (valid : config.validate = .ok ())
    (accepted : buildGraph tasks 1.0 = .ok graph) :
    ∃ order, (rankTasks entropy config tasks).value = .ok (Priorities.ofOrder order) ∧
      order.Perm (List.range' 1 tasks.length) ∧ Grown graph order := by
  obtain ⟨wellFormed, built⟩ := wellFormed_of_buildGraph accepted
  obtain ⟨ledger, order, filled, issued, complete, grown⟩ :=
    fillLedger_ok entropy valid wellFormed built
  exact ⟨order, rankTasks_of_filled valid accepted filled issued complete, complete, grown⟩

/-! ### Every call -/

/-- Errors that planning has a name for and that no call ends with. -/
def PlanningError.isInternal : PlanningError → Bool
  | .graph _ => true
  | .ranking _ => true
  | .duplicatePriorityAssignment _ => true
  | .incompletePriorities _ => true
  | _ => false

theorem TaskFault.isInternal_eq {count : Nat} {earlier : List TaskId} {task : Task}
    {cause : PlanningError} (fault : TaskFault count earlier task cause) :
    cause.isInternal = false := by
  cases fault <;> rfl

theorem FirstFault.isInternal_eq {cause : PlanningError} (fault : FirstFault tasks cause) :
    cause.isInternal = false := by
  cases fault with
  | empty => rfl
  | task _ _ fault => exact fault.isInternal_eq
  | reference _ _ _ fault =>
      cases fault
      rfl
  | cycle => rfl

theorem isInternal_of_buildGraph {weight : Float} {cause : PlanningError}
    (refused : buildGraph tasks weight = .error cause) : cause.isInternal = false := by
  by_cases short : tasks.length ≤ maxTaskId
  · exact ((buildGraph_error_iff short weight).mp refused).isInternal_eq
  · rw [buildGraph_of_long (Nat.lt_of_not_le short)] at refused
    cases refused
    rfl

/-- A call under a refused configuration does nothing but report it. -/
theorem rankTasks_of_invalid (entropy : σ) (tasks : List Task) {cause : ConfigError}
    (invalid : config.validate = .error cause) :
    rankTasks entropy config tasks = pure (.error (.reported (.config cause))) := by
  rw [rankTasks, invalid]
  rfl

/-- A call on a refused list does nothing but report it. -/
theorem rankTasks_of_refused (entropy : σ) {cause : PlanningError}
    (valid : config.validate = .ok ()) (refused : buildGraph tasks 1.0 = .error cause) :
    rankTasks entropy config tasks = pure (.error (.reported cause)) := by
  rw [rankTasks, valid, refused]
  rfl

theorem rankTasks_invalid (entropy : σ) (tasks : List Task) {cause : ConfigError}
    (invalid : config.validate = .error cause) :
    (rankTasks entropy config tasks).value = .error (.reported (.config cause)) :=
  congrArg Logged.value (rankTasks_of_invalid entropy tasks invalid)

theorem rankTasks_refused (entropy : σ) {cause : PlanningError}
    (valid : config.validate = .ok ()) (refused : buildGraph tasks 1.0 = .error cause) :
    (rankTasks entropy config tasks).value = .error (.reported cause) :=
  congrArg Logged.value (rankTasks_of_refused entropy valid refused)

/-- Planning reports an error, or it gives the priorities of an order of all tasks. -/
theorem rankTasks_cases (entropy : σ) (config : PlanningConfig) (tasks : List Task) :
    (∃ cause, (rankTasks entropy config tasks).value = .error (.reported cause)) ∨
      ∃ order, (rankTasks entropy config tasks).value = .ok (.ofOrder order) ∧
        order.Perm (List.range' 1 tasks.length) := by
  cases checked : config.validate with
  | error cause => exact Or.inl ⟨_, rankTasks_invalid entropy tasks checked⟩
  | ok =>
      cases accepted : buildGraph tasks 1.0 with
      | error cause => exact Or.inl ⟨_, rankTasks_refused entropy checked accepted⟩
      | ok graph =>
          obtain ⟨order, planned, complete, -⟩ := rankTasks_ok entropy checked accepted
          exact Or.inr ⟨order, planned, complete⟩

/-- Whatever the draws, the scores and the shares of a run are, a call ends as
the checks before it tell, and it never ends in an internal error or a breach.
Every task's cost has its place in the cost table. -/
theorem rankTasks_total (entropy : σ) (config : PlanningConfig) (tasks : List Task) :
    (∀ cause, config.validate = .error cause →
      (rankTasks entropy config tasks).value = .error (.reported (.config cause))) ∧
    (config.validate = .ok () → ∀ cause, buildGraph tasks 1.0 = .error cause →
      (rankTasks entropy config tasks).value = .error (.reported cause)) ∧
    (config.validate = .ok () → ∀ graph, buildGraph tasks 1.0 = .ok graph →
      ∃ priorities, (rankTasks entropy config tasks).value = .ok priorities ∧
        priorities.size = tasks.length ∧
        priorities.values.toList.Perm (List.range' 1 tasks.length) ∧
        ∀ task ∈ tasks, task.id < (costTable tasks).size) ∧
    ∀ failure, (rankTasks entropy config tasks).value = .error failure →
      ∃ cause, failure = .reported cause ∧ cause.isInternal = false := by
  refine ⟨fun _ => rankTasks_invalid entropy tasks, fun valid _ => rankTasks_refused entropy valid,
    ?_, ?_⟩
  · intro valid graph accepted
    obtain ⟨order, planned, complete, -⟩ := rankTasks_ok entropy valid accepted
    have length := length_of_complete complete
    refine ⟨_, planned, (Priorities.size_ofOrder order).trans length, ?_, ?_⟩
    · rw [← length] at complete ⊢
      exact Priorities.values_ofOrder_perm complete
    · intro task member
      have inRange := ((wellFormed_of_buildGraph accepted).1.admitted.numbered task member).2
      rw [size_costTable]
      exact Nat.lt_succ_of_le inRange
  · intro failure failed
    cases checked : config.validate with
    | error cause =>
        rw [rankTasks_invalid entropy tasks checked] at failed
        cases failed
        exact ⟨_, rfl, rfl⟩
    | ok =>
        cases built : buildGraph tasks 1.0 with
        | error cause =>
            rw [rankTasks_refused entropy checked built] at failed
            cases failed
            exact ⟨_, rfl, isInternal_of_buildGraph built⟩
        | ok graph =>
            obtain ⟨order, planned, -⟩ := rankTasks_ok entropy checked built
            exact nomatch planned.symm.trans failed

/-- A task with two children, named by the parent and, one of them, by itself, and
a task under both. -/
private def joined : List Task :=
  [{ id := 1, cost := 2.0, childIds := [3, 2] }, { id := 2, cost := 5.0 },
    { id := 3, parentIds := [1] }, { id := 4, cost := 0.5, parentIds := [3, 2] }]

private def withoutScale : PlanningConfig :=
  .usingWaterDrop { coefficients := { costScale := 0.0 } }

/-- A configuration that is refused, an empty list, and a list with relations,
planned by both algorithms and with both ways to select. -/
theorem rankTasks_total_cases :
    let entropy := Xoshiro.ofSeed 0
    let configs : List PlanningConfig :=
      [.usingWidestPath, .usingWaterDrop { selection := .greedy },
        .usingWaterDrop { selection := .probabilistic }, .usingWaterDrop { seed := some 7 }]
    withoutScale.validate = .error (.invalidParameter "cost_scale" 0.0) ∧
    (rankTasks entropy withoutScale []).value =
      .error (.reported (.config (.invalidParameter "cost_scale" 0.0))) ∧
    (rankTasks entropy {} []).value = .error (.reported .emptyGraph) ∧
    PlanningError.emptyGraph.isInternal = false ∧
    ∀ config ∈ configs, config.validate = .ok () ∧
      ∃ priorities, (rankTasks entropy config joined).value = .ok priorities ∧
        priorities.size = 4 ∧ priorities.values.toList.Perm [1, 2, 3, 4] ∧
        ∀ task ∈ joined, task.id < (costTable joined).size := by
  intro entropy configs
  have invalid : withoutScale.validate = .error (.invalidParameter "cost_scale" 0.0) := rfl
  have refused : buildGraph [] 1.0 = .error .emptyGraph := rfl
  obtain ⟨graph, accepted⟩ : ∃ graph, buildGraph joined 1.0 = .ok graph := ⟨_, rfl⟩
  obtain ⟨-, whenRefused, -, whenFailed⟩ := rankTasks_total entropy {} []
  have failed := whenRefused rfl _ refused
  have valid : ∀ config ∈ configs, config.validate = .ok () := by
    simp only [configs, List.forall_mem_cons]
    exact ⟨rfl, rfl, rfl, rfl, List.forall_mem_nil _⟩
  refine ⟨invalid, (rankTasks_total entropy withoutScale []).1 _ invalid, failed, ?_, ?_⟩
  · obtain ⟨cause, same, external⟩ := whenFailed _ failed
    cases same
    exact external
  · intro config member
    exact ⟨valid config member,
      (rankTasks_total entropy config joined).2.2.1 (valid config member) graph accepted⟩

end DagScheduling
