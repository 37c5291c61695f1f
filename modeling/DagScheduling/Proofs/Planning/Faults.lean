/-
Module: DagScheduling.Proofs.Planning.Faults
Purpose: What the checks on a task list demand, and which fault they report: the first one in
  list order, the tasks themselves before their references.
Main exports: Admitted, Resolved, TaskFault, ReferenceFault, checkTasks_ok_iff,
  checkTasks_error_iff, checkReferences_ok_iff, checkReferences_error_iff
-/
import DagScheduling.Planning.Validation
import DagScheduling.Proofs.Except
import DagScheduling.Proofs.FloatOrder

namespace DagScheduling

variable {count : Nat} {tasks : List Task} {task : Task} {seen : List TaskId}
  {cause : PlanningError}

theorem isTaskNumber_iff {id : Nat} : isTaskNumber count id = true ↔ 1 ≤ id ∧ id ≤ count := by
  simp [isTaskNumber]

theorem isAdmissibleCost_iff {cost : Float} :
    isAdmissibleCost cost = true ↔ cost.isFinite = true ∧ 0.0 < cost := by
  have zero : (0.0 : Float).isNaN = false := by decide
  simp only [isAdmissibleCost, Bool.and_eq_true, Bool.not_eq_true', decide_eq_false_iff_not]
  apply and_congr_right
  intro finite
  exact (lt_iff_not_le zero (isNaN_of_isFinite finite)).symm

/-- The tasks have numbers among `1..=count`, no two the same, and admissible costs. -/
structure Admitted (count : Nat) (tasks : List Task) : Prop where
  numbered : ∀ task ∈ tasks, 1 ≤ task.id ∧ task.id ≤ count
  distinct : (tasks.map Task.id).Nodup
  costs : ∀ task ∈ tasks, task.cost.isFinite = true ∧ 0.0 < task.cost

/-- What is wrong with a task after tasks numbered `earlier`. -/
inductive TaskFault (count : Nat) (earlier : List TaskId) (task : Task) : PlanningError → Prop
  | number (outside : ¬ (1 ≤ task.id ∧ task.id ≤ count)) :
      TaskFault count earlier task (.invalidTaskId task.id)
  | again (inside : 1 ≤ task.id ∧ task.id ≤ count) (taken : task.id ∈ earlier) :
      TaskFault count earlier task (.duplicateTaskId task.id)
  | cost (inside : 1 ≤ task.id ∧ task.id ≤ count) (new : task.id ∉ earlier)
      (inadmissible : ¬ (task.cost.isFinite = true ∧ 0.0 < task.cost)) :
      TaskFault count earlier task (.invalidCost task.id task.cost)

/-- The numbers a task refers to, in the order they are checked. -/
def Task.references (task : Task) : List TaskId :=
  task.parentIds ++ task.childIds

def Resolved (count : Nat) (task : Task) : Prop :=
  ∀ id ∈ task.references, 1 ≤ id ∧ id ≤ count

/-- The first reference of a task that leads nowhere. -/
inductive ReferenceFault (count : Nat) (task : Task) : PlanningError → Prop
  | unknown {before after : List TaskId} {id : TaskId}
      (split : task.references = before ++ id :: after)
      (known : ∀ earlier ∈ before, 1 ≤ earlier ∧ earlier ≤ count)
      (outside : ¬ (1 ≤ id ∧ id ≤ count)) :
      ReferenceFault count task (.unknownDependency task.id id)

/-! ### Numbers and costs -/

theorem admitted_nil : Admitted count [] :=
  ⟨by simp, by simp, by simp⟩

theorem admitted_cons {rest : List Task} :
    Admitted count (task :: rest) ↔
      (1 ≤ task.id ∧ task.id ≤ count) ∧ (∀ other ∈ rest, other.id ≠ task.id) ∧
        (task.cost.isFinite = true ∧ 0.0 < task.cost) ∧ Admitted count rest := by
  constructor
  · rintro ⟨numbered, distinct, costs⟩
    rw [List.forall_mem_cons] at numbered costs
    rw [List.map_cons, List.nodup_cons] at distinct
    refine ⟨numbered.1, ?_, costs.1, numbered.2, distinct.2, costs.2⟩
    intro other member same
    exact distinct.1 (List.mem_map.mpr ⟨other, member, same⟩)
  · rintro ⟨inside, new, admissible, numbered, distinct, costs⟩
    refine ⟨List.forall_mem_cons.mpr ⟨inside, numbered⟩, ?_,
      List.forall_mem_cons.mpr ⟨admissible, costs⟩⟩
    apply List.nodup_cons.mpr ⟨_, distinct⟩
    intro member
    obtain ⟨other, otherMember, same⟩ := List.mem_map.mp member
    exact new other otherMember same

theorem checkTasks_cons_of_admissible (inside : 1 ≤ task.id ∧ task.id ≤ count)
    (new : task.id ∉ seen) (admissible : task.cost.isFinite = true ∧ 0.0 < task.cost)
    (rest : List Task) :
    checkTasks count seen (task :: rest) = checkTasks count (task.id :: seen) rest := by
  rw [checkTasks, if_neg, if_neg, if_neg]
  · simpa using isAdmissibleCost_iff.mpr admissible
  · simpa using new
  · simpa using isTaskNumber_iff.mpr inside

theorem checkTasks_cons_of_fault (fault : TaskFault count seen task cause) (rest : List Task) :
    checkTasks count seen (task :: rest) = .error cause := by
  cases fault with
  | number outside =>
      rw [checkTasks, if_pos]
      simpa using mt isTaskNumber_iff.mp outside
  | again inside taken =>
      rw [checkTasks, if_neg, if_pos]
      · simpa using taken
      · simpa using isTaskNumber_iff.mpr inside
  | cost inside new inadmissible =>
      rw [checkTasks, if_neg, if_neg, if_pos]
      · simpa using mt isAdmissibleCost_iff.mp inadmissible
      · simpa using new
      · simpa using isTaskNumber_iff.mpr inside

/-- A task passes its checks or has a fault. -/
theorem admissible_or_fault (count : Nat) (seen : List TaskId) (task : Task) :
    ((1 ≤ task.id ∧ task.id ≤ count) ∧ task.id ∉ seen ∧
      (task.cost.isFinite = true ∧ 0.0 < task.cost)) ∨
    ∃ cause, TaskFault count seen task cause := by
  by_cases inside : 1 ≤ task.id ∧ task.id ≤ count
  · by_cases taken : task.id ∈ seen
    · exact Or.inr ⟨_, .again inside taken⟩
    · by_cases admissible : task.cost.isFinite = true ∧ 0.0 < task.cost
      · exact Or.inl ⟨inside, taken, admissible⟩
      · exact Or.inr ⟨_, .cost inside taken admissible⟩
  · exact Or.inr ⟨_, .number inside⟩

theorem checkTasks_ok_iff :
    checkTasks count seen tasks = .ok () ↔
      Admitted count tasks ∧ ∀ task ∈ tasks, task.id ∉ seen := by
  induction tasks generalizing seen with
  | nil =>
      simp only [checkTasks, true_iff]
      exact ⟨admitted_nil, by simp⟩
  | cons task rest inductionHypothesis =>
      rcases admissible_or_fault count seen task with ⟨inside, new, admissible⟩ | ⟨cause, fault⟩
      · rw [checkTasks_cons_of_admissible inside new admissible, inductionHypothesis,
          admitted_cons]
        simp only [List.mem_cons, not_or, forall_eq_or_imp, forall_and]
        constructor
        · rintro ⟨admitted, distinct, others⟩
          exact ⟨⟨inside, distinct, admissible, admitted⟩, new, others⟩
        · rintro ⟨⟨-, distinct, -, admitted⟩, -, others⟩
          exact ⟨admitted, distinct, others⟩
      · rw [checkTasks_cons_of_fault fault, admitted_cons, List.forall_mem_cons]
        constructor
        · intro impossible
          exact nomatch impossible
        · rintro ⟨⟨inside, -, admissible, -⟩, new, -⟩
          cases fault with
          | number outside => exact absurd inside outside
          | again _ taken => exact absurd taken new
          | cost _ _ inadmissible => exact absurd admissible inadmissible

theorem TaskFault.of_mem_iff {earlier : List TaskId} (fault : TaskFault count earlier task cause)
    (same : ∀ id, id ∈ earlier ↔ id ∈ seen) : TaskFault count seen task cause := by
  cases fault with
  | number outside => exact .number outside
  | again inside taken => exact .again inside ((same _).mp taken)
  | cost inside new inadmissible => exact .cost inside (mt (same _).mpr new) inadmissible

/-- The task at the head of the list is one of those before the rest. -/
private theorem mem_seen_moved (first : Task) (before : List Task) (id : TaskId) :
    id ∈ before.map Task.id ++ first.id :: seen ↔
      id ∈ (first :: before).map Task.id ++ seen := by
  simp [or_left_comm]

private theorem checkTasks_of_fault {before after : List Task} (admitted : Admitted count before)
    (others : ∀ earlier ∈ before, earlier.id ∉ seen)
    (fault : TaskFault count (before.map Task.id ++ seen) task cause) :
    checkTasks count seen (before ++ task :: after) = .error cause := by
  induction before generalizing seen with
  | nil => exact checkTasks_cons_of_fault fault after
  | cons first before inductionHypothesis =>
      obtain ⟨inside, distinct, admissible, rest⟩ := admitted_cons.mp admitted
      obtain ⟨new, restNew⟩ := List.forall_mem_cons.mp others
      rw [List.cons_append, checkTasks_cons_of_admissible inside new admissible]
      apply inductionHypothesis rest
      · intro earlier member
        rw [List.mem_cons, not_or]
        exact ⟨distinct earlier member, restNew earlier member⟩
      · exact fault.of_mem_iff fun id => (mem_seen_moved first before id).symm

private theorem exists_fault (failed : checkTasks count seen tasks = .error cause) :
    ∃ before task after, tasks = before ++ task :: after ∧ Admitted count before ∧
      (∀ earlier ∈ before, earlier.id ∉ seen) ∧
      TaskFault count (before.map Task.id ++ seen) task cause := by
  induction tasks generalizing seen with
  | nil => exact nomatch failed
  | cons first rest inductionHypothesis =>
      rcases admissible_or_fault count seen first with ⟨inside, new, admissible⟩ | ⟨_, fault⟩
      · rw [checkTasks_cons_of_admissible inside new admissible] at failed
        obtain ⟨before, task, after, split, admitted, others, fault⟩ :=
          inductionHypothesis failed
        simp only [List.mem_cons, not_or, forall_and] at others
        refine ⟨first :: before, task, after, ?_, ?_, ?_, ?_⟩
        · rw [split, List.cons_append]
        · exact admitted_cons.mpr ⟨inside, others.1, admissible, admitted⟩
        · exact List.forall_mem_cons.mpr ⟨new, others.2⟩
        · exact fault.of_mem_iff (mem_seen_moved first before)
      · rw [checkTasks_cons_of_fault fault] at failed
        cases failed
        exact ⟨[], first, rest, rfl, admitted_nil, by simp, fault⟩

/-- The tasks before the reported one are in order, and its fault is the first it has. -/
theorem checkTasks_error_iff :
    checkTasks count [] tasks = .error cause ↔
      ∃ before task after, tasks = before ++ task :: after ∧ Admitted count before ∧
        TaskFault count (before.map Task.id) task cause := by
  constructor
  · intro failed
    obtain ⟨before, task, after, split, admitted, -, fault⟩ := exists_fault failed
    rw [List.append_nil] at fault
    exact ⟨before, task, after, split, admitted, fault⟩
  · rintro ⟨before, task, after, split, admitted, fault⟩
    rw [split]
    apply checkTasks_of_fault admitted
    · simp
    · rw [List.append_nil]
      exact fault

/-! ### References -/

theorem checkReferences_ok_iff : checkReferences count task = .ok () ↔ Resolved count task := by
  rw [checkReferences, ← Task.references, Resolved]
  cases found : task.references.find? fun id => !isTaskNumber count id with
  | none => simpa [isTaskNumber_iff] using found
  | some id =>
      obtain ⟨outside, before, after, split, -⟩ := List.find?_eq_some_iff_append.mp found
      simp only [reduceCtorEq, false_iff]
      intro resolved
      have inside := isTaskNumber_iff.mpr (resolved id (by simp [split]))
      simp [inside] at outside

theorem checkReferences_error_iff :
    checkReferences count task = .error cause ↔ ReferenceFault count task cause := by
  rw [checkReferences, ← Task.references]
  constructor
  · intro failed
    cases found : task.references.find? fun id => !isTaskNumber count id with
    | none => simp [found] at failed
    | some id =>
        obtain ⟨outside, before, after, split, known⟩ := List.find?_eq_some_iff_append.mp found
        simp only [found, Except.error.injEq] at failed
        rw [← failed]
        refine .unknown split ?_ ?_
        · intro earlier member
          exact isTaskNumber_iff.mp (by simpa using known earlier member)
        · rw [← isTaskNumber_iff]
          simpa using outside
  · rintro ⟨split, known, outside⟩
    rename_i before after id
    have found : task.references.find? (fun id => !isTaskNumber count id) = some id := by
      apply List.find?_eq_some_iff_append.mpr
      refine ⟨?_, before, after, split, ?_⟩
      · rw [← isTaskNumber_iff] at outside
        simpa using outside
      · intro earlier member
        simpa using isTaskNumber_iff.mpr (known earlier member)
    rw [found]

end DagScheduling
