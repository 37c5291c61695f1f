/-
Module: DagScheduling.Proofs.Simulation.Dispatch
Purpose: A simulation's dispatch is a dispatch cycle under the priorities that its table states,
  in whatever order the table lists them, and of its resources nothing changes but which are busy.
Main exports: PriorityTable.priorityOf, PriorityTable.find?_eq_some_iff,
  PriorityTable.priorityOf_toPriorities, Simulation.dispatch_eq_map, Simulation.dispatch_by_table
-/
import DagScheduling.Proofs.Dispatch.Matching
import DagScheduling.Simulation.Requests

namespace DagScheduling

variable {table other : PriorityTable} {task : TaskId} {priority : Priority}

namespace PriorityTable

/-- The priority that a task has by a table: what is stated for it, or 0, and 0
for task 0, which there is not. -/
def priorityOf (table : PriorityTable) (task : TaskId) : Priority :=
  if task = 0 then 0 else (table.find? task).getD 0

/-! ### Entries -/

/-- No two entries are for one number. -/
def Unambiguous (table : PriorityTable) : Prop :=
  (table.entries.map Prod.fst).Nodup

instance (table : PriorityTable) : Decidable table.Unambiguous :=
  inferInstanceAs (Decidable (table.entries.map Prod.fst).Nodup)

theorem find?_eq_none_iff : table.find? task = none ↔ task ∉ table.entries.map Prod.fst := by
  simp only [find?, Option.map_eq_none_iff, List.find?_eq_none, List.mem_reverse, beq_iff_eq,
    List.mem_map, not_exists, not_and]

theorem find?_eq_some_iff (unambiguous : table.Unambiguous) :
    table.find? task = some priority ↔ (task, priority) ∈ table.entries := by
  constructor
  · intro found
    obtain ⟨⟨number, value⟩, isFound, rfl⟩ := Option.map_eq_some_iff.mp found
    have member := List.mem_reverse.mp (List.mem_of_find?_eq_some isFound)
    have same : number = task := by simpa using List.find?_some isFound
    exact same ▸ member
  · intro member
    cases found : table.find? task with
    | none => exact absurd (List.mem_map_of_mem member) (find?_eq_none_iff.mp found)
    | some value =>
        obtain ⟨entry, isFound, rfl⟩ := Option.map_eq_some_iff.mp found
        have entryMember := List.mem_reverse.mp (List.mem_of_find?_eq_some isFound)
        have same : entry.1 = task := by simpa using List.find?_some isFound
        rw [List.inj_on_of_nodup_map unambiguous entryMember member same]

/-- The order in which a table without ambiguities lists its entries makes no difference. -/
theorem find?_eq_of_perm (unambiguous : table.Unambiguous)
    (perm : other.entries.Perm table.entries) : other.find? = table.find? := by
  have otherUnambiguous : other.Unambiguous := (perm.map Prod.fst).nodup_iff.mpr unambiguous
  funext task
  apply Option.ext
  intro priority
  rw [find?_eq_some_iff otherUnambiguous, find?_eq_some_iff unambiguous, perm.mem_iff]

theorem priorityOf_of_mem (unambiguous : table.Unambiguous) (notZero : task ≠ 0)
    (stated : (task, priority) ∈ table.entries) : table.priorityOf task = priority := by
  rw [priorityOf, if_neg notZero, (find?_eq_some_iff unambiguous).mpr stated, Option.getD_some]

theorem priorityOf_of_notMem (unstated : task ∉ table.entries.map Prod.fst) :
    table.priorityOf task = 0 := by
  rw [priorityOf, find?_eq_none_iff.mpr unstated, Option.getD_none, ite_self]

theorem priorityOf_eq_of_perm (unambiguous : table.Unambiguous)
    (perm : other.entries.Perm table.entries) : other.priorityOf = table.priorityOf := by
  funext task
  rw [priorityOf, find?_eq_of_perm unambiguous perm, ← priorityOf]

/-! ### The array of a table -/

theorem find?_of_greatest_lt (beyond : table.greatest < task) : table.find? task = none := by
  rw [find?_eq_none_iff]
  intro member
  exact Nat.not_le.mpr beyond (List.le_max?_getD_of_mem member)

/-- Looking a task up in the array of a table is looking it up in the table. -/
theorem priorityOf_toPriorities (table : PriorityTable) :
    table.toPriorities.priorityOf = table.priorityOf := by
  funext task
  cases task with
  | zero => rfl
  | succ index =>
      rw [Priorities.priorityOf, Priorities.get?, toPriorities, priorityOf, Array.getElem?_ofFn,
        if_neg (Nat.succ_ne_zero index)]
      by_cases inside : index < table.greatest
      · rw [dif_pos inside, Option.getD_some]
      · have beyond : table.greatest < index + 1 := Nat.lt_succ_of_le (Nat.le_of_not_lt inside)
        rw [dif_neg inside, find?_of_greatest_lt beyond]

end PriorityTable

/-! ### Resources -/

theorem Simulation.copyState_self (resource : Resource) :
    copyState resource resource = resource := by
  obtain ⟨id, capacity, state⟩ := resource
  cases state <;> rfl

theorem Simulation.copyState_occupy (resource : Resource) :
    copyState resource resource.occupy = resource.occupy :=
  rfl

namespace Matched

variable {priorityOf : TaskId → Priority} {pending : List TaskId} {resources : List Resource}
  {picked : List (Resource × Nat)} {outcome : Dispatch}

/-- To take over the states is to take over the resources, as nothing else of them changes. -/
theorem zipWith_copyState (matched : Matched priorityOf pending resources picked outcome) :
    List.zipWith Simulation.copyState resources outcome.resources = outcome.resources := by
  apply List.ext_getElem?
  intro position
  rw [matched.picks.resources_eq, List.getElem?_zipWith, getElem?_changeAt]
  cases resources[position]? with
  | none => rfl
  | some resource =>
      by_cases bound : position ∈ picked.map Prod.snd
      · simp only [Option.map_some, bound, if_true, Simulation.copyState_occupy]
      · simp only [Option.map_some, bound, if_false, Simulation.copyState_self]

theorem length_resources (matched : Matched priorityOf pending resources picked outcome) :
    outcome.resources.length = resources.length := by
  rw [matched.picks.resources_eq, changeAt, List.length_mapIdx]

/-- A resource is busy afterwards if it was so before or has been picked. -/
theorem resource_after (matched : Matched priorityOf pending resources picked outcome)
    {position : Nat} {before : Resource} (there : resources[position]? = some before) :
    ∃ after, outcome.resources[position]? = some after ∧ after.id = before.id ∧
      after.capacity = before.capacity ∧
      (after.isIdle = false ↔ before.isIdle = false ∨ position ∈ picked.map Prod.snd) := by
  rw [matched.picks.resources_eq, getElem?_changeAt, there, Option.map_some]
  by_cases bound : position ∈ picked.map Prod.snd
  · rw [if_pos bound]
    exact ⟨before.occupy, rfl, rfl, rfl, by simp [bound]⟩
  · rw [if_neg bound]
    exact ⟨before, rfl, rfl, rfl, by simp [bound]⟩

end Matched

namespace Simulation

/-- A simulation's dispatch is the dispatch cycle in which the tasks have their
priorities by the table. -/
theorem dispatch_eq_map (ready : List TaskId) (table : PriorityTable) (resources : List Resource)
    (verbosity : Verbosity) :
    dispatch ready table resources verbosity =
      (fun outcome =>
        { pairs := outcome.assignments.map fun bound => (bound.task, bound.resource)
          resources := outcome.resources }) <$>
        bindBy table.priorityOf verbosity ready resources := by
  obtain ⟨picked, matched⟩ := bindBy_matches table.priorityOf verbosity ready resources
  rw [dispatch, DagScheduling.dispatch, table.priorityOf_toPriorities, ← map_eq_pure_bind]
  apply Logged.ext
  · rw [Logged.value_map, Logged.value_map, matched.zipWith_copyState]
  · rw [Logged.log_map, Logged.log_map]

/-- A simulation's dispatch makes the bindings of the dispatch cycle in which a task has the
priority that the table states for it, or 0 if it states none. In which order the table lists its
entries makes no difference. Each resource keeps its number and its capacity, and is busy afterwards
if it was so before or has been bound. -/
theorem dispatch_by_table (ready : List TaskId) (table : PriorityTable) (resources : List Resource)
    (verbosity : Verbosity) :
    let answer := dispatch ready table resources verbosity
    let cycle := bindBy table.priorityOf verbosity ready resources
    answer.value.pairs =
      cycle.value.assignments.map (fun bound => (bound.task, bound.resource)) ∧
    answer.log = cycle.log ∧
    (∀ task, task ∉ table.entries.map Prod.fst → table.priorityOf task = 0) ∧
    table.priorityOf 0 = 0 ∧
    (table.Unambiguous →
      (∀ task priority, task ≠ 0 → (task, priority) ∈ table.entries →
        table.priorityOf task = priority) ∧
      ∀ other : PriorityTable, other.entries.Perm table.entries →
        dispatch ready other resources verbosity = answer) ∧
    ∃ picked, Matched table.priorityOf ready resources picked cycle.value ∧
      answer.value.resources.length = resources.length ∧
      ∀ position before, resources[position]? = some before →
        ∃ after, answer.value.resources[position]? = some after ∧ after.id = before.id ∧
          after.capacity = before.capacity ∧
          (after.isIdle = false ↔ before.isIdle = false ∨ position ∈ picked.map Prod.snd) := by
  intro answer cycle
  have same : answer = _ := dispatch_eq_map ready table resources verbosity
  obtain ⟨picked, matched⟩ := bindBy_matches table.priorityOf verbosity ready resources
  refine ⟨?pairs, ?log, fun _ => table.priorityOf_of_notMem, rfl, ?unambiguous,
    picked, matched, ?length, ?after⟩
  case pairs => rw [same, Logged.value_map]
  case log => rw [same, Logged.log_map]
  case unambiguous =>
    intro unambiguous
    refine ⟨fun _ _ => table.priorityOf_of_mem unambiguous, ?_⟩
    intro other perm
    rw [same, dispatch_eq_map, PriorityTable.priorityOf_eq_of_perm unambiguous perm]
  case length =>
    rw [same, Logged.value_map]
    exact matched.length_resources
  case after =>
    intro position before there
    rw [same, Logged.value_map]
    exact matched.resource_after there

/-- Nothing is stated for task 7, and something for a task 0. -/
private def sparse : PriorityTable :=
  { entries := [(5, 9), (0, 7), (2, 4)] }

private def machines : List Resource :=
  [{ id := 1, capacity := 1.0 }, { id := 2, capacity := 9.0, state := .busy },
    { id := 3, capacity := 3.0 }]

theorem dispatch_by_table_sparse :
    sparse.Unambiguous ∧
      (dispatch [2, 7, 5] sparse machines 0).value.pairs = [(5, 3), (2, 1)] ∧
      sparse.priorityOf 5 = 9 ∧ sparse.priorityOf 7 = 0 ∧
      dispatch [2, 7, 5] { entries := [(2, 4), (0, 7), (5, 9)] } machines 0 =
        dispatch [2, 7, 5] sparse machines 0 := by
  have unambiguous : sparse.Unambiguous := by decide
  obtain ⟨pairs, -, unstated, -, whenUnambiguous, -⟩ :=
    dispatch_by_table [2, 7, 5] sparse machines 0
  obtain ⟨stated, order⟩ := whenUnambiguous unambiguous
  have cycle : (bindBy sparse.priorityOf 0 [2, 7, 5] machines).value.assignments =
      [⟨5, 3, 9⟩, ⟨2, 1, 4⟩] := by
    decide +kernel
  refine ⟨unambiguous, ?_, stated 5 9 (by decide) (by decide), unstated 7 (by decide),
    order _ (by decide)⟩
  rw [pairs, cycle]
  rfl

end Simulation

end DagScheduling
