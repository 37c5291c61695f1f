/-
Module: DagScheduling.Proofs.Dispatch.Matching
Purpose: A dispatch cycle pairs the pending tasks in the order of their turns with the resources
  in the order in which they are picked. Without NaN that is a zip of two stable sorts.
Main exports: Matched, dispatch_matches, Matched.map_task_append, Matched.length_assignments,
  dispatch_eq_zip
-/
import DagScheduling.Proofs.Dispatch.Picks
import DagScheduling.Proofs.Dispatch.Turns

namespace DagScheduling

variable {priorityOf : TaskId → Priority} {pending : List TaskId} {resources : List Resource}
  {outcome : Dispatch}

/-- The binding of a task to the resource of a place. -/
def binding (priorityOf : TaskId → Priority) (task : TaskId) (place : Resource × Nat) :
    Assignment :=
  { task := task, resource := place.1.id, priority := priorityOf task }

theorem Dispatch.ext {first second : Dispatch}
    (assignments : first.assignments = second.assignments)
    (waiting : first.waiting = second.waiting) (resources : first.resources = second.resources) :
    first = second := by
  cases first
  cases second
  simp_all

/-- What a dispatch cycle comes to: the tasks whose turns come first are bound
to the resources picked, until either run out, and the others wait. -/
structure Matched (priorityOf : TaskId → Priority) (pending : List TaskId)
    (resources : List Resource) (picked : List (Resource × Nat)) (outcome : Dispatch) : Prop where
  picks : Picks resources picked outcome.resources
  length_picked : picked.length =
    min (turns priorityOf pending).length (idlePositions resources).length
  assignments_eq : outcome.assignments =
    List.zipWith (binding priorityOf) (turns priorityOf pending) picked
  waiting_eq : outcome.waiting = unserved priorityOf picked.length pending

/-! ### One turn -/

theorem bindBy_nil (verbosity : Verbosity) :
    bindBy priorityOf verbosity [] resources =
      pure { assignments := [], waiting := [], resources := resources } := by
  rw [bindBy]
  rfl

theorem bindBy_of_none {task : TaskId} (verbosity : Verbosity)
    (chosen : nextTask? priorityOf pending = some task) (none : bestIdle? resources = none) :
    bindBy priorityOf verbosity pending resources = do
      surveyResources verbosity resources
      note verbosity (.noIdleResource task (priorityOf task))
      return { assignments := [], waiting := pending, resources := resources } := by
  rw [bindBy]
  split
  · rename_i finished
    cases chosen.symm.trans finished
  · rename_i other chosenHere
    cases chosen.symm.trans chosenHere
    simp only [none]

theorem bindBy_of_some {task : TaskId} {place : Resource × Nat} (verbosity : Verbosity)
    (chosen : nextTask? priorityOf pending = some task)
    (best : bestIdle? resources = some place) :
    bindBy priorityOf verbosity pending resources = do
      surveyResources verbosity resources
      note verbosity (.taskBound task (priorityOf task) place.1.id place.1.capacity)
      let later ← bindBy priorityOf verbosity (withoutTask task pending)
        (resources.modify place.2 Resource.occupy)
      return { later with assignments := binding priorityOf task place :: later.assignments } := by
  rw [bindBy]
  split
  · rename_i finished
    cases chosen.symm.trans finished
  · rename_i other chosenHere
    cases chosen.symm.trans chosenHere
    simp only [best, binding]

/-! ### A whole cycle -/

theorem bindBy_matches (priorityOf : TaskId → Priority) (verbosity : Verbosity)
    (pending : List TaskId) (resources : List Resource) :
    ∃ picked, Matched priorityOf pending resources picked
      (bindBy priorityOf verbosity pending resources).value := by
  induction pending using turns_induction priorityOf generalizing resources with
  | done =>
      rw [bindBy_nil]
      exact ⟨[], .done, by simp, by simp, by simp [unserved]⟩
  | next pending task chosen inductionHypothesis =>
      cases best : bestIdle? resources with
      | none =>
          rw [bindBy_of_none verbosity chosen best]
          have noneIdle := bestIdle?_eq_none_iff.mp best
          exact ⟨[], .done, by simp [noneIdle], by simp, by simp [unserved]⟩
      | some place =>
          rw [bindBy_of_some verbosity chosen best]
          obtain ⟨picked, later⟩ :=
            inductionHypothesis (resources.modify place.2 Resource.occupy)
          refine ⟨place :: picked, .next best later.picks, ?_, ?_, ?_⟩
          · rw [turns_of_next chosen, length_idlePositions_of_best best, List.length_cons,
              List.length_cons, later.length_picked, Nat.add_min_add_right]
          · rw [turns_of_next chosen, List.zipWith_cons_cons, ← later.assignments_eq]
            rfl
          · rw [List.length_cons, unserved_succ chosen]
            exact later.waiting_eq

theorem dispatch_matches (ready : List TaskId) (priorities : Priorities)
    (resources : List Resource) (verbosity : Verbosity) :
    ∃ picked, Matched priorities.priorityOf ready resources picked
      (dispatch ready priorities resources verbosity).value :=
  bindBy_matches priorities.priorityOf verbosity ready resources

/-! ### What is bound and what is left -/

private theorem map_zipWith_left {α β γ δ : Type} {pair : α → β → γ} {read : γ → δ} {key : α → δ}
    (reads : ∀ left right, read (pair left right) = key left) (lefts : List α) (rights : List β) :
    (List.zipWith pair lefts rights).map read = (lefts.take rights.length).map key := by
  induction lefts generalizing rights with
  | nil => simp
  | cons left lefts inductionHypothesis =>
      cases rights with
      | nil => simp
      | cons right rights => simp [reads, inductionHypothesis]

private theorem map_zipWith_right {α β γ δ : Type} {pair : α → β → γ} {read : γ → δ} {key : β → δ}
    (reads : ∀ left right, read (pair left right) = key right) (lefts : List α) (rights : List β) :
    (List.zipWith pair lefts rights).map read = (rights.take lefts.length).map key := by
  rw [List.zipWith_comm]
  exact map_zipWith_left (fun right left => reads left right) rights lefts

namespace Matched

variable {picked : List (Resource × Nat)}

theorem length_le (matched : Matched priorityOf pending resources picked outcome) :
    picked.length ≤ (turns priorityOf pending).length := by
  rw [matched.length_picked]
  exact Nat.min_le_left _ _

theorem map_task (matched : Matched priorityOf pending resources picked outcome) :
    outcome.assignments.map Assignment.task = (turns priorityOf pending).take picked.length := by
  have reads : ∀ task place, (binding priorityOf task place).task = id task := fun _ _ => rfl
  rw [matched.assignments_eq, map_zipWith_left reads, List.map_id]

theorem map_resource (matched : Matched priorityOf pending resources picked outcome) :
    outcome.assignments.map Assignment.resource = picked.map fun place => place.1.id := by
  have reads : ∀ task place, (binding priorityOf task place).resource = place.1.id :=
    fun _ _ => rfl
  rw [matched.assignments_eq, map_zipWith_right reads, List.take_of_length_le matched.length_le]

theorem length_assignments (matched : Matched priorityOf pending resources picked outcome) :
    outcome.assignments.length =
      min pending.eraseDups.length (resources.countP Resource.isIdle) := by
  rw [← length_turns, ← length_idlePositions, ← matched.length_picked,
    ← List.length_map Assignment.resource, matched.map_resource, List.length_map]

/-- The tasks bound, followed by those that wait in the order of their turns,
are all the tasks in the order of their turns. -/
theorem map_task_append (matched : Matched priorityOf pending resources picked outcome) :
    outcome.assignments.map Assignment.task ++ turns priorityOf outcome.waiting =
      turns priorityOf pending := by
  rw [matched.map_task, matched.waiting_eq, turns_unserved, List.take_append_drop]

theorem waiting_eq_filter (matched : Matched priorityOf pending resources picked outcome) :
    outcome.waiting =
      pending.filter fun task => task ∉ outcome.assignments.map Assignment.task := by
  rw [matched.map_task]
  exact matched.waiting_eq

end Matched

/-! ### Capacities that are numbers -/

private theorem zipWith_take_min {α β γ : Type} (pair : α → β → γ) (lefts : List α)
    (rights : List β) :
    List.zipWith pair lefts (rights.take (min lefts.length rights.length)) =
      List.zipWith pair lefts rights := by
  induction lefts generalizing rights with
  | nil => simp
  | cons left lefts inductionHypothesis =>
      cases rights with
      | nil => simp
      | cons right rights => simp [inductionHypothesis]

/-- If no capacity is NaN, a cycle sorts the distinct ready tasks by priority and
the idle resources by capacity, both stably and from the highest down, and binds
them pair by pair. The resources bound are marked busy, and the tasks not bound
wait as they were given. -/
theorem dispatch_eq_zip (ready : List TaskId) (priorities : Priorities)
    (resources : List Resource) (verbosity : Verbosity)
    (numbers : ∀ resource ∈ resources, resource.capacity.isNaN = false) :
    let order := turns priorities.priorityOf ready
    let places := ranked resources
    let bound := min order.length places.length
    (dispatch ready priorities resources verbosity).value =
      { assignments := List.zipWith (binding priorities.priorityOf) order places
        waiting := ready.filter fun task => task ∉ order.take bound
        resources := changeAt Resource.occupy ((places.take bound).map Prod.snd) resources } := by
  obtain ⟨picked, matched⟩ := dispatch_matches ready priorities resources verbosity
  have count : picked.length =
      min (turns priorities.priorityOf ready).length (ranked resources).length := by
    rw [matched.length_picked, length_ranked]
  have chosen := matched.picks.eq_take_ranked numbers
  apply Dispatch.ext
  · rw [matched.assignments_eq, chosen, count, zipWith_take_min]
  · rw [matched.waiting_eq, unserved, count]
  · rw [matched.picks.resources_eq, ← count, ← chosen]

/-- Task 4 has no priority and is ready twice, tasks 1 and 3 are level; two
resources share a number, two a capacity, and the fastest of all is busy. -/
private def desks : List Resource :=
  [{ id := 7, capacity := 2.0 }, { id := 8, capacity := 5.0, state := .busy },
    { id := 7, capacity := 3.0 }, { id := 9, capacity := 3.0 }]

theorem dispatch_eq_zip_desks :
    (∀ resource ∈ desks, resource.capacity.isNaN = false) ∧
      let outcome := (dispatch [4, 2, 4, 1, 3] { values := #[5, 9, 5] } desks 0).value
      outcome.assignments = [⟨2, 7, 9⟩, ⟨1, 9, 5⟩, ⟨3, 7, 5⟩] ∧ outcome.waiting = [4, 4] ∧
        outcome.resources = desks.map Resource.occupy := by
  have numbers : ∀ resource ∈ desks, resource.capacity.isNaN = false := by decide
  have order : turns ({ values := #[5, 9, 5] } : Priorities).priorityOf [4, 2, 4, 1, 3] =
      [2, 1, 3, 4] := by
    have distinct : [4, 2, 4, 1, 3].eraseDups = [4, 2, 1, 3] := by decide
    simp [turns, distinct, Priorities.priorityOf, Priorities.get?, List.mergeSort,
      List.MergeSort.Internal.splitInTwo]
  have places : ranked desks =
      [({ id := 7, capacity := 3.0 }, 2), ({ id := 9, capacity := 3.0 }, 3),
        ({ id := 7, capacity := 2.0 }, 0)] := by
    have idle : idlePositions desks =
        [({ id := 7, capacity := 2.0 }, 0), ({ id := 7, capacity := 3.0 }, 2),
          ({ id := 9, capacity := 3.0 }, 3)] := rfl
    have faster : ¬ (3.0 : Float) ≤ 2.0 := by decide
    have level : (3.0 : Float) ≤ 3.0 := by decide
    simp [ranked, idle, faster, level, List.mergeSort, List.MergeSort.Internal.splitInTwo]
  refine ⟨numbers, ?_⟩
  rw [dispatch_eq_zip _ _ _ 0 numbers, order, places]
  exact ⟨rfl, rfl, rfl⟩

end DagScheduling
