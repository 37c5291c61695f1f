/-
Module: DagScheduling.Proofs.Dispatch.Cycles
Purpose: Dispatch cycles that hand on what waits, with resources released in between. Over all
  of them the tasks take their turns once each, and no resource is taken twice without a release.
Main exports: Cycles, Cycles.boundBefore_append_turns, Cycles.pending_eq_filter,
  Cycles.released_since, dispatch_cycles
-/
import DagScheduling.Proofs.Dispatch.Matching

namespace DagScheduling

/-- Dispatch cycles under the same priorities. Each is given what the one before
it left waiting, after the resources at some positions have been released. -/
structure Cycles where
  /-- The tasks that the first cycle is given. -/
  ready : List TaskId
  priorities : Priorities
  /-- The resources before the first cycle. -/
  resources : List Resource
  /-- The positions released after each cycle. -/
  released : Nat → List Nat
  verbosity : Verbosity := 0

namespace Cycles

/-- The tasks and the resources that a cycle is given. -/
def given (cycles : Cycles) : Nat → List TaskId × List Resource
  | 0 => (cycles.ready, cycles.resources)
  | cycle + 1 =>
      let (pending, resources) := cycles.given cycle
      let outcome := (dispatch pending cycles.priorities resources cycles.verbosity).value
      (outcome.waiting, changeAt Resource.release (cycles.released cycle) outcome.resources)

/-- The tasks pending before a cycle. -/
def pending (cycles : Cycles) (cycle : Nat) : List TaskId :=
  (cycles.given cycle).1

/-- The resources before a cycle. -/
def offered (cycles : Cycles) (cycle : Nat) : List Resource :=
  (cycles.given cycle).2

/-- What a cycle comes to. -/
def outcome (cycles : Cycles) (cycle : Nat) : Dispatch :=
  (dispatch (cycles.pending cycle) cycles.priorities (cycles.offered cycle)
    cycles.verbosity).value

/-- The tasks that a cycle binds, in the order of the bindings. -/
def bound (cycles : Cycles) (cycle : Nat) : List TaskId :=
  (cycles.outcome cycle).assignments.map Assignment.task

/-- The tasks bound before a cycle, one cycle after the other. -/
def boundBefore (cycles : Cycles) (cycle : Nat) : List TaskId :=
  (List.range cycle).flatMap cycles.bound

end Cycles

/-- Whether the resource at a position is idle. -/
def idleAt (resources : List Resource) (position : Nat) : Bool :=
  resources[position]?.any Resource.isIdle

/-- Numbers and capacities, without the states. -/
def fixtures (resources : List Resource) : List (ResourceId × Float) :=
  resources.map fun resource => (resource.id, resource.capacity)

/-- The positions of the resources that a cycle binds: idle before and busy after it. -/
def Cycles.occupied (cycles : Cycles) (cycle : Nat) : List Nat :=
  (List.range (cycles.offered cycle).length).filter fun position =>
    idleAt (cycles.offered cycle) position && !idleAt (cycles.outcome cycle).resources position

variable {change : Resource → Resource} {positions : List Nat} {resources : List Resource}
  {priorityOf : TaskId → Priority} {pending : List TaskId} {picked : List (Resource × Nat)}
  {outcome : Dispatch} {position : Nat}

/-! ### Positions that change -/

theorem idleAt_occupy :
    idleAt (changeAt Resource.occupy positions resources) position =
      (idleAt resources position && position ∉ positions) := by
  unfold idleAt
  rw [getElem?_changeAt]
  cases resources[position]? with
  | none => rfl
  | some resource => by_cases taken : position ∈ positions <;> simp [taken]

theorem idleAt_release (idle : idleAt (changeAt Resource.release positions resources) position)
    (held : position ∉ positions) : idleAt resources position = true := by
  unfold idleAt at idle ⊢
  rw [getElem?_changeAt] at idle
  simpa [held] using idle

theorem fixtures_changeAt (number : ∀ resource, (change resource).id = resource.id)
    (capacity : ∀ resource, (change resource).capacity = resource.capacity) :
    fixtures (changeAt change positions resources) = fixtures resources := by
  apply List.ext_getElem?
  intro position
  simp only [fixtures, List.getElem?_map, getElem?_changeAt]
  cases resources[position]? with
  | none => rfl
  | some resource => by_cases chosen : position ∈ positions <;> simp [chosen, number, capacity]

/-! ### A single cycle -/

namespace Matched

theorem idleAt_before (matched : Matched priorityOf pending resources picked outcome)
    (idle : idleAt outcome.resources position) : idleAt resources position = true := by
  rw [matched.picks.resources_eq, idleAt_occupy] at idle
  exact (Bool.and_eq_true_iff.mp idle).1

/-- The positions that were idle and are no more are those of the resources picked. -/
theorem mem_positions_iff (matched : Matched priorityOf pending resources picked outcome) :
    position ∈ picked.map Prod.snd ↔
      idleAt resources position = true ∧ idleAt outcome.resources position = false := by
  rw [matched.picks.resources_eq, idleAt_occupy]
  constructor
  · intro taken
    obtain ⟨place, member, rfl⟩ := List.mem_map.mp taken
    obtain ⟨there, idle⟩ := mem_idlePositions.mp (matched.picks.mem_idlePositions member)
    have idleThere : idleAt resources place.2 = true := by simp [idleAt, there, idle]
    exact ⟨idleThere, by simp [taken]⟩
  · rintro ⟨idle, busy⟩
    simpa [idle] using busy

theorem fixtures_eq (matched : Matched priorityOf pending resources picked outcome) :
    fixtures outcome.resources = fixtures resources := by
  rw [matched.picks.resources_eq]
  exact fixtures_changeAt (fun _ => rfl) fun _ => rfl

/-- A cycle leaves no task that waits beside an idle resource. -/
theorem exhausts (matched : Matched priorityOf pending resources picked outcome) :
    turns priorityOf outcome.waiting = [] ∨ idlePositions outcome.resources = [] := by
  have waiting := congrArg List.length matched.map_task_append
  have tasks := congrArg List.length matched.map_task
  have left := matched.picks.length_idlePositions
  have count := matched.length_picked
  simp only [List.length_append, List.length_take] at waiting tasks
  rw [← List.length_eq_zero_iff, ← List.length_eq_zero_iff]
  omega

end Matched

/-- What a cycle leaves waiting finds no resource without a release. -/
theorem dispatch_again (ready : List TaskId) (priorities : Priorities) (resources : List Resource)
    (verbosity : Verbosity) :
    let outcome := (dispatch ready priorities resources verbosity).value
    (dispatch outcome.waiting priorities outcome.resources verbosity).value =
      { outcome with assignments := [] } := by
  intro outcome
  obtain ⟨picked, matched⟩ := dispatch_matches ready priorities resources verbosity
  obtain ⟨pickedAgain, again⟩ :=
    dispatch_matches outcome.waiting priorities outcome.resources verbosity
  have none : pickedAgain = [] := by
    apply List.eq_nil_of_length_eq_zero
    rw [again.length_picked]
    rcases matched.exhausts with noTask | noResource
    · simp [outcome, noTask]
    · simp [outcome, noResource]
  subst none
  apply Dispatch.ext
  · simpa using again.assignments_eq
  · simpa [unserved] using again.waiting_eq
  · simpa using again.picks.resources_eq

/-! ### Cycle after cycle -/

namespace Cycles

variable (cycles : Cycles)

theorem pending_succ (cycle : Nat) :
    cycles.pending (cycle + 1) = (cycles.outcome cycle).waiting :=
  rfl

theorem offered_succ (cycle : Nat) :
    cycles.offered (cycle + 1) =
      changeAt Resource.release (cycles.released cycle) (cycles.outcome cycle).resources :=
  rfl

theorem boundBefore_succ (cycle : Nat) :
    cycles.boundBefore (cycle + 1) = cycles.boundBefore cycle ++ cycles.bound cycle := by
  simp [boundBefore, List.range_succ]

theorem matches_cycle (cycle : Nat) :
    ∃ picked, Matched cycles.priorities.priorityOf (cycles.pending cycle) (cycles.offered cycle)
      picked (cycles.outcome cycle) :=
  dispatch_matches _ _ _ _

/-- At any time the tasks bound so far, followed by those pending in the order of
their turns, are all the tasks in the order of their turns. -/
theorem boundBefore_append_turns (cycle : Nat) :
    cycles.boundBefore cycle ++ turns cycles.priorities.priorityOf (cycles.pending cycle) =
      turns cycles.priorities.priorityOf cycles.ready := by
  induction cycle with
  | zero => rfl
  | succ cycle inductionHypothesis =>
      obtain ⟨picked, matched⟩ := cycles.matches_cycle cycle
      rw [boundBefore_succ, pending_succ, List.append_assoc, bound, matched.map_task_append,
        inductionHypothesis]

theorem pending_eq_filter (cycle : Nat) :
    cycles.pending cycle = cycles.ready.filter fun task => task ∉ cycles.boundBefore cycle := by
  induction cycle with
  | zero => simp [boundBefore, pending, given]
  | succ cycle inductionHypothesis =>
      obtain ⟨picked, matched⟩ := cycles.matches_cycle cycle
      rw [pending_succ, matched.waiting_eq_filter, inductionHypothesis, boundBefore_succ,
        filter_notMem_append, bound]

theorem mem_occupied_iff {cycle : Nat} :
    position ∈ cycles.occupied cycle ↔
      idleAt (cycles.offered cycle) position = true ∧
        idleAt (cycles.outcome cycle).resources position = false := by
  simp only [occupied, List.mem_filter, List.mem_range, Bool.and_eq_true, Bool.not_eq_true',
    and_iff_right_iff_imp]
  intro idleBefore
  apply Nat.lt_of_not_le
  intro beyond
  simpa [idleAt, List.getElem?_eq_none beyond] using idleBefore.1

/-- A resource that is idle again after a cycle that left it busy has been released since. -/
theorem released_since {first cycle : Nat} (later : first < cycle)
    (busy : idleAt (cycles.outcome first).resources position = false)
    (idle : idleAt (cycles.offered cycle) position = true) :
    ∃ between, first ≤ between ∧ between < cycle ∧ position ∈ cycles.released between := by
  -- Dispatching makes nothing idle: either the last cycle was followed by a release of the
  -- position, or it was idle before that cycle already.
  induction later with
  | refl =>
      by_cases freed : position ∈ cycles.released first
      · exact ⟨first, Nat.le_refl first, Nat.lt_succ_self first, freed⟩
      · rw [offered_succ] at idle
        rw [idleAt_release idle freed] at busy
        cases busy
  | @step cycle later inductionHypothesis =>
      by_cases freed : position ∈ cycles.released cycle
      · exact ⟨cycle, Nat.le_of_lt later, Nat.lt_succ_self cycle, freed⟩
      · rw [offered_succ] at idle
        obtain ⟨picked, matched⟩ := cycles.matches_cycle cycle
        have idleBefore := matched.idleAt_before (idleAt_release idle freed)
        obtain ⟨between, since, before, released⟩ := inductionHypothesis idleBefore
        exact ⟨between, since, Nat.lt_succ_of_lt before, released⟩

theorem fixtures_outcome (cycle : Nat) :
    fixtures (cycles.outcome cycle).resources = fixtures (cycles.offered cycle) := by
  obtain ⟨picked, matched⟩ := cycles.matches_cycle cycle
  exact matched.fixtures_eq

theorem fixtures_offered (cycle : Nat) :
    fixtures (cycles.offered cycle) = fixtures cycles.resources := by
  induction cycle with
  | zero => rfl
  | succ cycle inductionHypothesis =>
      calc fixtures (cycles.offered (cycle + 1))
          = fixtures (cycles.outcome cycle).resources :=
            fixtures_changeAt (fun _ => rfl) fun _ => rfl
        _ = fixtures (cycles.offered cycle) := cycles.fixtures_outcome cycle
        _ = fixtures cycles.resources := inductionHypothesis

/-- What the assignments of a cycle name are the resources at the positions it takes. -/
theorem perm_occupied (cycle : Nat) :
    ((cycles.outcome cycle).assignments.map Assignment.resource).Perm
      ((cycles.occupied cycle).filterMap fun position =>
        (cycles.offered cycle)[position]?.map Resource.id) := by
  obtain ⟨picked, matched⟩ := cycles.matches_cycle cycle
  have same : (picked.map Prod.snd).Perm (cycles.occupied cycle) := by
    have distinct : (cycles.occupied cycle).Nodup := List.nodup_range.filter _
    apply (List.perm_ext_iff_of_nodup matched.picks.nodup distinct).mpr
    intro position
    rw [matched.mem_positions_iff, mem_occupied_iff]
  have ids : (picked.map Prod.snd).filterMap (fun position =>
      (cycles.offered cycle)[position]?.map Resource.id) = picked.map fun place => place.1.id := by
    rw [List.filterMap_map, ← List.filterMap_eq_map]
    apply List.filterMap_congr
    intro place member
    have there := (mem_idlePositions.mp (matched.picks.mem_idlePositions member)).1
    simp [there]
  rw [matched.map_resource, ← ids]
  exact same.filterMap _

end Cycles

/-- Over dispatch cycles every task takes its turn at most once and none
overtakes: each cycle binds as many tasks as there are pending tasks and idle
resources for, the tasks bound so far are the first in the order of their turns,
and the others are pending as they were given. A resource is bound a second time
only after a release, nothing but states changes, and a cycle repeated without a
release binds nothing. -/
theorem dispatch_cycles (cycles : Cycles) (cycle : Nat) :
    (cycles.bound cycle).length =
        min (cycles.pending cycle).eraseDups.length
          ((cycles.offered cycle).countP Resource.isIdle) ∧
      cycles.boundBefore cycle <+: turns cycles.priorities.priorityOf cycles.ready ∧
      (cycles.boundBefore cycle).Nodup ∧
      cycles.pending cycle = cycles.ready.filter (fun task => task ∉ cycles.boundBefore cycle) ∧
      ((cycles.outcome cycle).assignments.map Assignment.resource).Perm
        ((cycles.occupied cycle).filterMap fun position =>
          (cycles.offered cycle)[position]?.map Resource.id) ∧
      (∀ earlier position, earlier < cycle → position ∈ cycles.occupied earlier →
        position ∈ cycles.occupied cycle →
        ∃ between, earlier ≤ between ∧ between < cycle ∧ position ∈ cycles.released between) ∧
      fixtures (cycles.offered cycle) = fixtures cycles.resources ∧
      fixtures (cycles.outcome cycle).resources = fixtures cycles.resources ∧
      (dispatch (cycles.outcome cycle).waiting cycles.priorities (cycles.outcome cycle).resources
        cycles.verbosity).value = { cycles.outcome cycle with assignments := [] } := by
  have order := cycles.boundBefore_append_turns cycle
  have begins : cycles.boundBefore cycle <+: turns cycles.priorities.priorityOf cycles.ready :=
    ⟨_, order⟩
  refine ⟨?_, begins, begins.sublist.nodup (nodup_turns _ _), cycles.pending_eq_filter cycle,
    cycles.perm_occupied cycle, ?_, cycles.fixtures_offered cycle,
    (cycles.fixtures_outcome cycle).trans (cycles.fixtures_offered cycle), dispatch_again _ _ _ _⟩
  · obtain ⟨picked, matched⟩ := cycles.matches_cycle cycle
    rw [Cycles.bound, List.length_map]
    exact matched.length_assignments
  · intro earlier position before taken again
    exact cycles.released_since before (cycles.mem_occupied_iff.mp taken).2
      (cycles.mem_occupied_iff.mp again).1

/-- The only resource is released after the first cycle, and not any more later. -/
example :
    let cycles : Cycles :=
      { ready := [4, 2, 4, 1], priorities := { values := #[5, 9, 5] },
        resources := [{ id := 8, capacity := 1.0 }], released := fun cycle => [cycle] }
    cycles.boundBefore 2 = [2, 1] ∧ cycles.pending 3 = [4, 4] := by
  decide +kernel

end DagScheduling
