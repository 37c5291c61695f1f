/-
Module: DagScheduling.Proofs.Dispatch.Rounds
Purpose: Rounds of dispatching the ready tasks and finishing them. As long as a resource is idle
  at the start, every task is completed in its turn, once, and after its parents.
Main exports: Schedule.round, Schedule.roundBound, Schedule.rounds, Schedule.uncompleted,
  Schedule.progress, Schedule.mem_completed_rounds, rounds_complete
-/
import DagScheduling.Dispatch.Schedule
import DagScheduling.Proofs.Dispatch.Matching
import DagScheduling.Proofs.Dispatch.Readiness
import DagScheduling.Proofs.Planning.Verdict

namespace DagScheduling

namespace Schedule

/-- Dispatch the ready tasks and finish them. -/
def round (schedule : Schedule) (verbosity : Verbosity) : Schedule :=
  (schedule.dispatch schedule.ready verbosity).value.2.finishLast

/-- The tasks that a round binds. -/
def roundBound (schedule : Schedule) (verbosity : Verbosity) : List TaskId :=
  (schedule.dispatch schedule.ready verbosity).value.1.assignments.map Assignment.task

/-- The schedule after some rounds. -/
def rounds (schedule : Schedule) (verbosity : Verbosity) : Nat → Schedule
  | 0 => schedule
  | count + 1 => (schedule.rounds verbosity count).round verbosity

/-- The tasks that are not completed. -/
def uncompleted (schedule : Schedule) : List TaskId :=
  (schedule.tasks.map Task.id).filter fun task => task ∉ schedule.completed

/-- Some resource may take a task. -/
def HasIdle (schedule : Schedule) : Prop :=
  ∃ resource ∈ schedule.resources, resource.isIdle = true

variable {schedule : Schedule} {task parent : TaskId} {count : Nat}

theorem mem_uncompleted :
    task ∈ schedule.uncompleted ↔
      task ∈ schedule.tasks.map Task.id ∧ task ∉ schedule.completed := by
  simp [uncompleted]

/-! ### One round -/

variable (schedule) (verbosity : Verbosity)

@[simp] theorem tasks_round : (schedule.round verbosity).tasks = schedule.tasks :=
  rfl

theorem completed_round :
    (schedule.round verbosity).completed = schedule.completed ++ schedule.roundBound verbosity :=
  rfl

theorem round_matches :
    ∃ picked, Matched schedule.priorities.priorityOf schedule.ready schedule.resources picked
      (schedule.dispatch schedule.ready verbosity).value.1 :=
  dispatch_matches _ _ _ _

/-- A round binds ready tasks. -/
theorem roundBound_sublist :
    (schedule.roundBound verbosity).Sublist
      (turns schedule.priorities.priorityOf schedule.ready) := by
  obtain ⟨picked, matched⟩ := schedule.round_matches verbosity
  rw [roundBound, matched.map_task]
  exact List.take_sublist _ _

theorem nodup_roundBound : (schedule.roundBound verbosity).Nodup :=
  (schedule.roundBound_sublist verbosity).nodup (nodup_turns _ _)

theorem mem_ready_of_bound (bound : task ∈ schedule.roundBound verbosity) :
    task ∈ schedule.ready :=
  mem_turns.mp ((schedule.roundBound_sublist verbosity).subset bound)

/-- What was idle before a round is idle after it: it is left alone, or bound and
released with all resources of its number. -/
theorem hasIdle_round (idle : schedule.HasIdle) : (schedule.round verbosity).HasIdle := by
  obtain ⟨picked, matched⟩ := schedule.round_matches verbosity
  obtain ⟨resource, member, isIdle⟩ := idle
  obtain ⟨position, there⟩ := List.mem_iff_getElem?.mp member
  have after := matched.picks.resources_eq ▸ getElem?_changeAt position
  rw [there, Option.map_some] at after
  -- The last step of a round, on the resources that the dispatch left.
  let numbers := (schedule.dispatch schedule.ready verbosity).value.1.assignments.map
    Assignment.resource
  let finish (resource : Resource) : Resource :=
    if numbers.contains resource.id then resource.release else resource
  have finished := List.mem_map_of_mem (f := finish) (List.mem_of_getElem? after)
  refine ⟨_, finished, ?_⟩
  by_cases taken : position ∈ picked.map Prod.snd
  · obtain ⟨place, chosen, same⟩ := List.mem_map.mp taken
    have known := (mem_idlePositions.mp (matched.picks.mem_idlePositions chosen)).1
    rw [same, there] at known
    cases known
    have number : place.1.id ∈ numbers := by
      simp only [numbers, matched.map_resource]
      exact List.mem_map_of_mem chosen
    simp [taken, finish, number, Resource.occupy]
  · simp only [taken, if_false, finish]
    split
    · rfl
    · exact isIdle

variable {schedule}

/-- Without a cycle a round binds a task as long as there is one. -/
theorem progress (wellFormed : WellFormed schedule.tasks) (idle : schedule.HasIdle)
    (left : task ∈ schedule.uncompleted) :
    schedule.ready ≠ [] ∧ schedule.roundBound verbosity ≠ [] := by
  obtain ⟨isTask, missing⟩ := mem_uncompleted.mp left
  obtain ⟨next, ready⟩ := wellFormed.exists_ready task isTask missing
  obtain ⟨picked, matched⟩ := schedule.round_matches verbosity
  have someIdle : 0 < schedule.resources.countP Resource.isIdle := List.countP_pos_iff.mpr idle
  have someReady : 0 < schedule.ready.eraseDups.length :=
    List.length_pos_of_mem (List.mem_eraseDups.mpr ready)
  have bound := matched.length_assignments
  refine ⟨List.ne_nil_of_mem ready, ?_⟩
  apply List.ne_nil_of_length_pos
  rw [roundBound, List.length_map, bound]
  exact Nat.lt_min.mpr ⟨someReady, someIdle⟩

theorem uncompleted_round :
    (schedule.round verbosity).uncompleted =
      schedule.uncompleted.filter fun task => task ∉ schedule.roundBound verbosity := by
  rw [uncompleted, uncompleted, tasks_round, completed_round, filter_notMem_append]

theorem length_uncompleted_round (wellFormed : WellFormed schedule.tasks)
    (idle : schedule.HasIdle) (left : schedule.uncompleted ≠ []) :
    (schedule.round verbosity).uncompleted.length < schedule.uncompleted.length := by
  obtain ⟨task, member⟩ := List.exists_mem_of_ne_nil _ left
  obtain ⟨-, bindsSome⟩ := progress verbosity wellFormed idle member
  obtain ⟨next, bound⟩ := List.exists_mem_of_ne_nil _ bindsSome
  have ready := mem_readyTasks.mp (schedule.mem_ready_of_bound verbosity bound)
  rw [uncompleted_round]
  apply List.length_filter_lt_length_iff_exists.mpr
  exact ⟨next, mem_uncompleted.mpr ⟨ready.1, ready.2.1⟩, by simpa using bound⟩

/-! ### Round after round -/

variable (schedule)

@[simp] theorem tasks_rounds (count : Nat) :
    (schedule.rounds verbosity count).tasks = schedule.tasks := by
  induction count with
  | zero => rfl
  | succ count inductionHypothesis => rw [rounds, tasks_round, inductionHypothesis]

theorem wellFormed_rounds (wellFormed : WellFormed schedule.tasks) (count : Nat) :
    WellFormed (schedule.rounds verbosity count).tasks := by
  rw [tasks_rounds]
  exact wellFormed

theorem hasIdle_rounds (idle : schedule.HasIdle) (count : Nat) :
    (schedule.rounds verbosity count).HasIdle := by
  induction count with
  | zero => exact idle
  | succ count inductionHypothesis => exact hasIdle_round _ verbosity inductionHypothesis

/-- What is completed was completed at the start or bound in a round before. -/
theorem mem_completed_rounds {count : Nat} :
    task ∈ (schedule.rounds verbosity count).completed ↔
      task ∈ schedule.completed ∨
        ∃ earlier < count, task ∈ (schedule.rounds verbosity earlier).roundBound verbosity := by
  induction count with
  | zero => simp [rounds]
  | succ count inductionHypothesis =>
      rw [rounds, completed_round, List.mem_append, inductionHypothesis, or_assoc]
      simp only [Nat.lt_succ_iff_lt_or_eq, or_and_right, exists_or, exists_eq_left]

variable {schedule}

/-- With every round one task less is left at least. -/
theorem length_uncompleted_rounds (wellFormed : WellFormed schedule.tasks)
    (idle : schedule.HasIdle) (count : Nat) :
    (schedule.rounds verbosity count).uncompleted.length ≤ schedule.uncompleted.length - count := by
  induction count with
  | zero => exact Nat.le_refl _
  | succ count inductionHypothesis =>
      rw [rounds]
      by_cases done : (schedule.rounds verbosity count).uncompleted = []
      · simp [uncompleted_round, done]
      · have fewer := length_uncompleted_round verbosity
          (schedule.wellFormed_rounds verbosity wellFormed count)
          (schedule.hasIdle_rounds verbosity idle count) done
        omega

/-- A task that a round binds has its parents behind it: completed at the start,
or bound in a round before. -/
theorem parent_of_bound (related : Related schedule.tasks parent task)
    (bound : task ∈ (schedule.rounds verbosity count).roundBound verbosity) :
    parent ∈ schedule.completed ∨
      ∃ earlier < count, parent ∈ (schedule.rounds verbosity earlier).roundBound verbosity := by
  have ready := mem_readyTasks.mp (mem_ready_of_bound _ verbosity bound)
  rw [tasks_rounds] at ready
  exact (schedule.mem_completed_rounds verbosity).mp (ready.2.2 parent related)

/-- What one round binds no later round binds. -/
theorem not_bound_after {first second : Nat} (later : first < second)
    (bound : task ∈ (schedule.rounds verbosity first).roundBound verbosity) :
    task ∉ (schedule.rounds verbosity second).roundBound verbosity := by
  intro again
  apply (mem_readyTasks.mp (mem_ready_of_bound _ verbosity again)).2.1
  exact (schedule.mem_completed_rounds verbosity).mpr (Or.inr ⟨first, later, bound⟩)

end Schedule

/-- Of a task list that can be planned, every task is completed in its turn
whatever the priorities are, if some resource is idle at the start. Each round
binds a task as long as one is left, so that there are at most as many rounds as
tasks. Each task is bound in a single round, all its parents before it. -/
theorem rounds_complete {schedule : Schedule} {graph : Graph} {weight : Float}
    (accepted : buildGraph schedule.tasks weight = .ok graph)
    (idle : ∃ resource ∈ schedule.resources, resource.isIdle = true) (verbosity : Verbosity) :
    let after := schedule.rounds verbosity
    let bound := fun count => (after count).roundBound verbosity
    (∀ count, (after count).uncompleted ≠ [] → (after count).ready ≠ [] ∧ bound count ≠ []) ∧
      (∀ count, schedule.uncompleted.length ≤ count → (after count).uncompleted = []) ∧
      ∀ task ∈ schedule.uncompleted, ∃ round < schedule.uncompleted.length,
        (bound round).count task = 1 ∧ (∀ other, task ∈ bound other → other = round) ∧
        ∀ parent, Related schedule.tasks parent task →
          parent ∈ schedule.completed ∨ ∃ earlier < round, parent ∈ bound earlier := by
  intro after bound
  have wellFormed := (wellFormed_of_buildGraph accepted).1
  have done : ∀ count, schedule.uncompleted.length ≤ count → (after count).uncompleted = [] := by
    intro count enough
    have left := schedule.length_uncompleted_rounds verbosity wellFormed idle count
    rw [Nat.sub_eq_zero_of_le enough] at left
    exact List.eq_nil_of_length_eq_zero (Nat.le_zero.mp left)
  refine ⟨?_, done, ?_⟩
  · intro count left
    obtain ⟨task, member⟩ := List.exists_mem_of_ne_nil _ left
    exact Schedule.progress verbosity (schedule.wellFormed_rounds verbosity wellFormed count)
      (schedule.hasIdle_rounds verbosity idle count) member
  · intro task member
    obtain ⟨isTask, missing⟩ := Schedule.mem_uncompleted.mp member
    have completed : task ∈ (after schedule.uncompleted.length).completed := by
      by_contra stillMissing
      rw [← schedule.tasks_rounds verbosity schedule.uncompleted.length] at isTask
      have left := Schedule.mem_uncompleted.mpr ⟨isTask, stillMissing⟩
      rw [done _ (Nat.le_refl _)] at left
      exact List.not_mem_nil left
    obtain before | ⟨round, inTime, binds⟩ := (schedule.mem_completed_rounds verbosity).mp completed
    · exact absurd before missing
    · refine ⟨round, inTime, ?_, ?_,
        fun parent related => Schedule.parent_of_bound verbosity related binds⟩
      · exact List.count_eq_one_of_mem (Schedule.nodup_roundBound _ verbosity) binds
      · intro other again
        rcases Nat.lt_trichotomy other round with earlier | same | later
        · exact absurd binds (Schedule.not_bound_after verbosity earlier again)
        · exact same
        · exact absurd again (Schedule.not_bound_after verbosity later binds)

/-- Task 4 has two parents, one of them recorded on its own side alone, and task 1
is completed. The idle resource has no capacity that is a number. -/
private def diamond : Schedule where
  tasks :=
    [{ id := 1, childIds := [2] }, { id := 2, childIds := [4] }, { id := 3, parentIds := [1] },
      { id := 4, parentIds := [2, 3] }]
  resources := [{ id := 7, capacity := 1.0, state := .busy }, { id := 7, capacity := 0.0 / 0.0 }]
  completed := [1]
  priorities := { values := #[0, 1, 1, 9] }

theorem rounds_complete_diamond :
    (∃ graph, buildGraph diamond.tasks 1.0 = .ok graph) ∧
      (∃ resource ∈ diamond.resources, resource.isIdle = true) ∧
      (diamond.rounds 0 3).uncompleted = [] ∧
      ∃ round < 3, ((diamond.rounds 0 round).roundBound 0).count 4 = 1 ∧
        ∀ parent ∈ [2, 3], ∃ earlier < round, parent ∈ (diamond.rounds 0 earlier).roundBound 0 := by
  obtain ⟨graph, accepted⟩ : ∃ graph, buildGraph diamond.tasks 1.0 = .ok graph := ⟨_, rfl⟩
  have idle : ∃ resource ∈ diamond.resources, resource.isIdle = true :=
    ⟨{ id := 7, capacity := 0.0 / 0.0 }, List.mem_cons_of_mem _ List.mem_cons_self, rfl⟩
  obtain ⟨-, done, each⟩ := rounds_complete accepted idle 0
  obtain ⟨round, inTime, once, -, behind⟩ := each 4 (by decide)
  refine ⟨⟨graph, accepted⟩, idle, done 3 (by decide), round, inTime, once, ?_⟩
  intro parent member
  have related : Related diamond.tasks parent 4 :=
    Or.inr ⟨_, List.getLast_mem (List.cons_ne_nil _ _), rfl, member⟩
  obtain before | earlier := behind parent related
  · simp only [diamond, List.mem_singleton] at before
    subst before
    simp at member
  · exact earlier

end DagScheduling
