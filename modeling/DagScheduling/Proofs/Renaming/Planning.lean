/-
Module: DagScheduling.Proofs.Renaming.Planning
Purpose: Task numbers are names and nothing else: planning a list with its tasks renumbered gives
  every task the priority that it had.
Main exports: fillLedger_renamed, rankTasks_renamed
-/
import DagScheduling.Proofs.Renaming.Tasks
import DagScheduling.Proofs.Renaming.WaterDrop
import DagScheduling.Proofs.Renaming.WidestPath

namespace DagScheduling

variable {σ : Type} [SeedableSource σ] {tasks : List Task} {graph other : Graph}
  {config : PlanningConfig} {entropy entropyOther : σ}

theorem follows_orFailRanking {S T : Type} {related : S → T → Prop}
    {ranked : Logged (Except (Stopped S) S)} {rankedOther : Logged (Except (Stopped T) T)}
    (follows : Follows related ranked.value rankedOther.value) :
    Follows related (outcome (orFailRanking ranked)) (outcome (orFailRanking rankedOther)) := by
  cases ended : ranked.value with
  | error stopped =>
      rw [orFailRanking, outcome_bind, outcome_lift, ok_bind, ended]
      exact .error
  | ok state =>
      obtain ⟨stateOther, endedOther, holds⟩ := follows state ended
      rw [outcome_orFailRanking_ok ended, outcome_orFailRanking_ok endedOther]
      exact .ok holds

/-- The runs draw alike: the algorithm or the selection draws nothing, or their
generators start the same. -/
def DrawAlike (config : PlanningConfig) (entropy entropyOther : σ) : Prop :=
  config.algorithm = .widestPath ∨ config.waterDrop.selection = .greedy ∨
    generator entropyOther config.waterDrop.seed = generator entropy config.waterDrop.seed

theorem fillLedger_renamed {rename : Renaming (tasks.length + 1)}
    (renamed : Graph.Renamed rename graph other)
    (drawAlike : DrawAlike config entropy entropyOther) :
    Follows (Ledger.Renamed rename) (outcome (fillLedger entropy config tasks graph))
      (outcome (fillLedger entropyOther config (tasks.map (Task.renamed rename)) other)) := by
  have fresh := Ledger.Renamed.ofTaskCount rename
  rw [fillLedger, fillLedger, List.length_map]
  cases chosen : config.algorithm with
  | widestPath =>
      simp only [outcome_bind]
      apply Follows.bind (follows_orFailRanking (WidestPath.rank_renamed renamed fresh))
      intro standing standingOther same
      exact .ok same.ledger
  | waterDrop =>
      have sameBed : Riverbed.Renamed rename
          { params := config.waterDrop, costs := costTable tasks, verbosity := config.verbosity }
          { params := config.waterDrop
            costs := costTable (tasks.map (Task.renamed rename))
            verbosity := config.verbosity } := by
        refine ⟨rfl, ?_, costTable_renamed tasks rename⟩
        rw [size_costTable, size_costTable, List.length_map]
      have sameDraws := drawAlike.resolve_left (by simp [chosen])
      simp only [outcome_bind, outcome_lift, ok_bind]
      apply Follows.bind
        (follows_orFailRanking (Riverbed.rank_renamed sameBed renamed fresh sameDraws))
      intro flow flowOther same
      exact .ok same.standing.ledger

/-- A full ledger and the priorities it gives tell the same of each task. -/
theorem get?_ofOrder_eq {ledger : Ledger} {order : List TaskId} {count task : Nat}
    (issued : ledger.Issued count order) (complete : order.Perm (List.range' 1 count))
    (bounds : 1 ≤ task ∧ task ≤ count) :
    (Priorities.ofOrder order).get? task = ledger.get? task := by
  have length := length_of_complete complete
  have member := complete.mem_iff.mpr (mem_range'_one.mpr bounds)
  rw [Priorities.get?_ofOrder bounds.1 (length ▸ bounds.2), issued.priority, if_pos member,
    priorityIn, length]

/-- Task numbers are only names. An accepted list whose tasks are renumbered by a
permutation, on every side of their relations and in the old order, is accepted
again, and under a valid configuration and with the same draws, where there are
any, every task has its old priority under its new number. -/
theorem rankTasks_renamed (accepted : buildGraph tasks 1.0 = .ok graph)
    (valid : config.validate = .ok ()) (names : TaskId → TaskId)
    (permutes : ((List.range' 1 tasks.length).map names).Perm (List.range' 1 tasks.length))
    (drawAlike : DrawAlike config entropy entropyOther) :
    (∃ other, buildGraph (tasks.map (Task.renamed names)) 1.0 = .ok other) ∧
    ∃ priorities prioritiesOther,
      (rankTasks entropy config tasks).value = .ok priorities ∧
      (rankTasks entropyOther config (tasks.map (Task.renamed names))).value =
        .ok prioritiesOther ∧
      ∀ task ∈ tasks, prioritiesOther.get? (names task.id) = priorities.get? task.id := by
  obtain ⟨wellFormed, built⟩ := wellFormed_of_buildGraph accepted
  have sameList := map_renamed_ofPermutation wellFormed names permutes
  obtain ⟨other, acceptedOther, renamed⟩ :=
    buildGraph_renamed accepted (Renaming.ofPermutation names permutes)
  obtain ⟨wellFormedOther, builtOther⟩ := wellFormed_of_buildGraph acceptedOther
  obtain ⟨ledger, order, filled, issued, complete, -⟩ :=
    fillLedger_ok entropy valid wellFormed built
  obtain ⟨ledgerOther, orderOther, filledOther, issuedOther, completeOther, -⟩ :=
    fillLedger_ok entropyOther valid wellFormedOther builtOther
  obtain ⟨_, isOther, same⟩ := fillLedger_renamed renamed drawAlike ledger filled
  cases filledOther.symm.trans isOther
  have ranked := rankTasks_of_filled valid accepted filled issued complete
  have rankedOther := rankTasks_of_filled valid acceptedOther filledOther issuedOther completeOther
  rw [sameList] at acceptedOther rankedOther
  refine ⟨⟨other, acceptedOther⟩, _, _, ranked, rankedOther, ?_⟩
  intro task member
  have bounds := wellFormed.admitted.numbered task member
  have newName : Renaming.ofPermutation names permutes task.id = names task.id :=
    if_pos (mem_range'_one.mpr bounds)
  have newBounds := (Renaming.ofPermutation names permutes).bounds_iff.mpr bounds
  rw [List.length_map] at issuedOther completeOther
  rw [← newName, get?_ofOrder_eq issuedOther completeOther newBounds,
    get?_ofOrder_eq issued complete bounds, same.get?]

/-- A task with two children, one of them costly, and a task under both. -/
private def branches : List Task :=
  [{ id := 1, childIds := [3, 2] }, { id := 2, cost := 5.0 }, { id := 3, parentIds := [1] },
    { id := 4, parentIds := [3, 2] }]

theorem rankTasks_renamed_branches :
    let names (id : TaskId) : TaskId := 5 - id
    let configs : List PlanningConfig :=
      [.usingWidestPath, .usingWaterDrop { selection := .greedy },
        .usingWaterDrop { seed := some 7 }]
    ((List.range' 1 branches.length).map names).Perm (List.range' 1 branches.length) ∧
      (∃ graph, buildGraph branches 1.0 = .ok graph) ∧
      ∀ config ∈ configs, config.validate = .ok () ∧
        DrawAlike config (Xoshiro.ofSeed 1) (Xoshiro.ofSeed 2) ∧
        ∃ priorities prioritiesOther,
          (rankTasks (Xoshiro.ofSeed 1) config branches).value = .ok priorities ∧
          (rankTasks (Xoshiro.ofSeed 2) config (branches.map (Task.renamed names))).value =
            .ok prioritiesOther ∧
          prioritiesOther.get? 4 = priorities.get? 1 ∧
          prioritiesOther.get? 2 = priorities.get? 3 := by
  intro names configs
  have permutes : ((List.range' 1 branches.length).map names).Perm
      (List.range' 1 branches.length) := by decide
  obtain ⟨graph, accepted⟩ : ∃ graph, buildGraph branches 1.0 = .ok graph := ⟨_, rfl⟩
  have alike : ∀ config ∈ configs, config.validate = .ok () ∧
      DrawAlike config (Xoshiro.ofSeed 1) (Xoshiro.ofSeed 2) :=
    List.forall_mem_cons.mpr ⟨⟨rfl, Or.inl rfl⟩, List.forall_mem_cons.mpr
      ⟨⟨rfl, Or.inr (Or.inl rfl)⟩, List.forall_mem_singleton.mpr ⟨rfl, Or.inr (Or.inr rfl)⟩⟩⟩
  refine ⟨permutes, ⟨graph, accepted⟩, ?_⟩
  intro config member
  obtain ⟨valid, drawAlike⟩ := alike config member
  obtain ⟨-, priorities, prioritiesOther, ranked, rankedOther, same⟩ :=
    rankTasks_renamed accepted valid names permutes drawAlike
  refine ⟨valid, drawAlike, priorities, prioritiesOther, ranked, rankedOther, ?_, ?_⟩
  · exact same { id := 1, childIds := [3, 2] } (by simp [branches])
  · exact same { id := 3, parentIds := [1] } (by simp [branches])

end DagScheduling
