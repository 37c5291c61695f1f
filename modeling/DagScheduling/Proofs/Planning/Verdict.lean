/-
Module: DagScheduling.Proofs.Planning.Verdict
Purpose: Which task lists give a graph, and what is reported of the others.
Main exports: FirstFault, buildGraph_of_wellFormed, buildGraph_of_fault, buildGraph_ok_iff,
  buildGraph_error_iff, buildGraph_verdict
-/
import DagScheduling.Proofs.Planning.TaskGraph

namespace DagScheduling

variable {tasks : List Task} {cause : PlanningError}

/-- The fault that is reported of a task list: of an empty one that it is
empty, else of the first task with a fault of its own that fault, else of the
first with a reference that leads nowhere that reference, else a cycle. -/
inductive FirstFault (tasks : List Task) : PlanningError → Prop
  | empty (none : tasks = []) : FirstFault tasks .emptyGraph
  | task {before after : List Task} {task : Task} {cause : PlanningError}
      (split : tasks = before ++ task :: after) (admitted : Admitted tasks.length before)
      (fault : TaskFault tasks.length (before.map Task.id) task cause) : FirstFault tasks cause
  | reference {before after : List Task} {task : Task} {cause : PlanningError}
      (admitted : Admitted tasks.length tasks) (split : tasks = before ++ task :: after)
      (resolved : ∀ earlier ∈ before, Resolved tasks.length earlier)
      (fault : ReferenceFault tasks.length task cause) : FirstFault tasks cause
  | cycle (admitted : Admitted tasks.length tasks)
      (resolved : ∀ task ∈ tasks, Resolved tasks.length task)
      (cyclic : ∃ task, Relation.TransGen (Related tasks) task task) :
      FirstFault tasks .circularDependency

theorem validateTasks_eq (nonempty : tasks ≠ []) (short : tasks.length ≤ maxTaskId) :
    validateTasks tasks = (checkTasks tasks.length [] tasks >>= fun _ =>
      tasks.forM (checkReferences tasks.length)) := by
  have isEmpty : tasks.isEmpty = false := by simpa using nonempty
  have notLong : ¬ maxTaskId < tasks.length := Nat.not_lt.mpr short
  simp only [validateTasks, isEmpty, notLong, Bool.false_eq_true, if_false]

theorem forM_checkReferences_ok_iff {count : Nat} :
    tasks.forM (checkReferences count) = .ok () ↔ ∀ task ∈ tasks, Resolved count task := by
  simp only [forM_ok_iff, checkReferences_ok_iff]

theorem checkTasks_ok (admitted : Admitted tasks.length tasks) :
    checkTasks tasks.length [] tasks = .ok () :=
  checkTasks_ok_iff.mpr ⟨admitted, by simp⟩

theorem validateTasks_of_admitted (nonempty : tasks ≠ []) (short : tasks.length ≤ maxTaskId)
    (admitted : Admitted tasks.length tasks) :
    validateTasks tasks = tasks.forM (checkReferences tasks.length) := by
  rw [validateTasks_eq nonempty short, checkTasks_ok admitted, ok_bind]

theorem validateTasks_ok (nonempty : tasks ≠ []) (short : tasks.length ≤ maxTaskId)
    (admitted : Admitted tasks.length tasks)
    (resolved : ∀ task ∈ tasks, Resolved tasks.length task) : validateTasks tasks = .ok () := by
  rw [validateTasks_of_admitted nonempty short admitted]
  exact forM_checkReferences_ok_iff.mpr resolved

/-! ### Lists that give a graph -/

theorem buildGraph_of_wellFormed (wellFormed : WellFormed tasks)
    (short : tasks.length ≤ maxTaskId) (weight : Float) :
    ∃ graph, buildGraph tasks weight = .ok graph ∧ BuiltFrom tasks graph := by
  have admitted := wellFormed.admitted
  have resolved : ∀ task ∈ tasks, Resolved tasks.length task := wellFormed.references
  have acyclic : isAcyclic (tasks.length + 1) (relations tasks) = true :=
    (isAcyclic_iff (numbered_relations admitted resolved)).mpr
      wellFormed.acyclic_relations
  obtain ⟨graph, added, built⟩ := addRelations_built weight admitted resolved
  refine ⟨graph, ?_, built⟩
  rw [buildGraph, validateTasks_ok wellFormed.nonempty short admitted resolved, ok_bind]
  simp only [acyclic, added, Except.mapError, Bool.not_true, Bool.false_eq_true, if_false]

/-! ### Faults -/

theorem buildGraph_of_fault (fault : FirstFault tasks cause) (short : tasks.length ≤ maxTaskId)
    (weight : Float) : buildGraph tasks weight = .error cause := by
  have nonempty_of_split {before after : List Task} {task : Task}
      (split : tasks = before ++ task :: after) : tasks ≠ [] := by
    simp [split]
  cases fault with
  | empty none =>
      subst none
      rfl
  | task split admitted fault =>
      have failed := checkTasks_error_iff.mpr ⟨_, _, _, split, admitted, fault⟩
      rw [buildGraph, validateTasks_eq (nonempty_of_split split) short, failed]
      rfl
  | reference admitted split resolved fault =>
      have failed : tasks.forM (checkReferences tasks.length) = .error cause := by
        apply forM_error_iff.mpr
        refine ⟨_, _, _, split, ?_, checkReferences_error_iff.mpr fault⟩
        intro earlier member
        exact checkReferences_ok_iff.mpr (resolved earlier member)
      rw [buildGraph, validateTasks_of_admitted (nonempty_of_split split) short admitted, failed]
      rfl
  | cycle admitted resolved cyclic =>
      have nonempty : tasks ≠ [] := by
        rintro rfl
        obtain ⟨task, path⟩ := cyclic
        obtain ⟨child, related, -⟩ := Relation.TransGen.head'_iff.mp path
        simp [Related] at related
      have cyclic : isAcyclic (tasks.length + 1) (relations tasks) = false := by
        rw [← Bool.not_eq_true, isAcyclic_iff (numbered_relations admitted resolved),
          acyclic_relations_iff]
        simpa using cyclic
      rw [buildGraph, validateTasks_ok nonempty short admitted resolved, ok_bind]
      simp only [cyclic, Bool.not_false, if_true]
      rfl

theorem wellFormed_or_fault (tasks : List Task) :
    WellFormed tasks ∨ ∃ cause, FirstFault tasks cause := by
  by_cases none : tasks = []
  · exact Or.inr ⟨_, .empty none⟩
  cases checked : checkTasks tasks.length [] tasks with
  | error cause =>
      obtain ⟨_, _, _, split, admitted, fault⟩ := checkTasks_error_iff.mp checked
      exact Or.inr ⟨cause, .task split admitted fault⟩
  | ok =>
      obtain ⟨admitted, -⟩ := checkTasks_ok_iff.mp checked
      cases looked : tasks.forM (checkReferences tasks.length) with
      | error cause =>
          obtain ⟨_, _, _, split, fine, failed⟩ := forM_error_iff.mp looked
          refine Or.inr ⟨cause, .reference admitted split ?_ (checkReferences_error_iff.mp failed)⟩
          intro earlier member
          exact checkReferences_ok_iff.mp (fine earlier member)
      | ok =>
          have resolved := forM_checkReferences_ok_iff.mp looked
          by_cases cyclic : ∃ task, Relation.TransGen (Related tasks) task task
          · exact Or.inr ⟨_, .cycle admitted resolved cyclic⟩
          · exact Or.inl ⟨none, admitted.numbers, admitted.costs, resolved, not_exists.mp cyclic⟩

theorem buildGraph_ok_iff (short : tasks.length ≤ maxTaskId) (weight : Float) :
    (∃ graph, buildGraph tasks weight = .ok graph) ↔ WellFormed tasks := by
  constructor
  · rintro ⟨graph, built⟩
    rcases wellFormed_or_fault tasks with wellFormed | ⟨cause, fault⟩
    · exact wellFormed
    · rw [buildGraph_of_fault fault short] at built
      exact nomatch built
  · intro wellFormed
    obtain ⟨graph, built, -⟩ := buildGraph_of_wellFormed wellFormed short weight
    exact ⟨graph, built⟩

theorem buildGraph_error_iff (short : tasks.length ≤ maxTaskId) (weight : Float) :
    buildGraph tasks weight = .error cause ↔ FirstFault tasks cause := by
  constructor
  · intro failed
    rcases wellFormed_or_fault tasks with wellFormed | ⟨other, fault⟩
    · obtain ⟨graph, built, -⟩ := buildGraph_of_wellFormed wellFormed short weight
      exact nomatch failed.symm.trans built
    · have same := buildGraph_of_fault fault short weight
      cases same.symm.trans failed
      exact fault
  · intro fault
    exact buildGraph_of_fault fault short weight

/-- Of more tasks than there are numbers nothing else is looked at. -/
theorem buildGraph_of_long (long : maxTaskId < tasks.length) (weight : Float) :
    buildGraph tasks weight = .error (.invalidTaskId maxTaskId) := by
  have isEmpty : tasks.isEmpty = false := by
    rw [List.isEmpty_eq_false_iff_exists_mem]
    exact List.exists_mem_of_length_pos (Nat.zero_lt_of_lt long)
  have invalid : validateTasks tasks = .error (.invalidTaskId maxTaskId) := by
    simp only [validateTasks, isEmpty, long, Bool.false_eq_true, if_false, if_true]
    rfl
  rw [buildGraph, invalid, error_bind]

theorem short_of_buildGraph {graph : Graph} {weight : Float}
    (accepted : buildGraph tasks weight = .ok graph) : tasks.length ≤ maxTaskId := by
  apply Nat.le_of_not_lt
  intro long
  rw [buildGraph_of_long long] at accepted
  exact nomatch accepted

/-- A graph that was built is that of a well-formed list. -/
theorem wellFormed_of_buildGraph {graph : Graph} {weight : Float}
    (accepted : buildGraph tasks weight = .ok graph) :
    WellFormed tasks ∧ BuiltFrom tasks graph := by
  by_cases short : tasks.length ≤ maxTaskId
  · have wellFormed := (buildGraph_ok_iff short weight).mp ⟨graph, accepted⟩
    obtain ⟨same, builtAgain, built⟩ := buildGraph_of_wellFormed wellFormed short weight
    cases builtAgain.symm.trans accepted
    exact ⟨wellFormed, built⟩
  · rw [buildGraph_of_long (Nat.lt_of_not_le short)] at accepted
    exact nomatch accepted

theorem validateTasks_ok_iff (short : tasks.length ≤ maxTaskId) :
    validateTasks tasks = .ok () ↔
      tasks ≠ [] ∧ Admitted tasks.length tasks ∧ ∀ task ∈ tasks, Resolved tasks.length task := by
  constructor
  · intro passed
    have nonempty : tasks ≠ [] := by
      rintro rfl
      exact nomatch passed
    rw [validateTasks_eq nonempty short] at passed
    cases checked : checkTasks tasks.length [] tasks with
    | error cause =>
        rw [checked, error_bind] at passed
        exact nomatch passed
    | ok =>
        rw [checked, ok_bind] at passed
        exact ⟨nonempty, (checkTasks_ok_iff.mp checked).1, forM_checkReferences_ok_iff.mp passed⟩
  · rintro ⟨nonempty, admitted, resolved⟩
    exact validateTasks_ok nonempty short admitted resolved

/-- A graph is built of exactly the well-formed lists, and of the others the
first fault is reported. Once the checks are passed, every counter of the sweep
and every other number looked up by a task's number is there, no counter runs
below zero, the sweep ends for want of nodes to visit, and no edge is refused. -/
theorem buildGraph_verdict (weight : Float) (short : tasks.length ≤ maxTaskId) :
    ((∃ graph, buildGraph tasks weight = .ok graph) ↔ WellFormed tasks) ∧
    (∀ cause, buildGraph tasks weight = .error cause ↔ FirstFault tasks cause) ∧
    (validateTasks tasks = .ok () →
      let count := tasks.length + 1
      Sweep.finish? count (relations tasks) = some (Sweep.finish count (relations tasks)) ∧
      (Sweep.finish count (relations tasks)).queue = [] ∧
      (∀ relation ∈ relations tasks, relation.1 < count ∧ relation.2 < count) ∧
      (∀ task ∈ tasks, task.id < count) ∧
      ∃ graph, addRelations (Graph.ofNodeCount count) weight
        (rootRelations tasks ++ relations tasks) = .ok graph) := by
  refine ⟨buildGraph_ok_iff short weight, fun _ => buildGraph_error_iff short weight, ?_⟩
  intro passed
  obtain ⟨-, admitted, resolved⟩ := (validateTasks_ok_iff short).mp passed
  have numbered := numbered_relations admitted resolved
  obtain ⟨checked, -, done⟩ := Sweep.finish_steady numbered
  obtain ⟨graph, added, -⟩ := addRelations_built weight admitted resolved
  refine ⟨checked, done, ?_, ?_, graph, added⟩
  · intro relation member
    exact ⟨(numbered member).1.2, (numbered member).2.2⟩
  · intro task member
    exact Nat.lt_succ_of_le (admitted.numbered task member).2

/-- Two tasks, each the parent of the other. -/
private def mutualParents : List Task :=
  [{ id := 1, parentIds := [2] }, { id := 2, parentIds := [1] }]

theorem buildGraph_verdict_mutualParents :
    mutualParents.length ≤ maxTaskId ∧ validateTasks mutualParents = .ok () ∧
      (∃ graph, addRelations (Graph.ofNodeCount 3) 1.0
        (rootRelations mutualParents ++ relations mutualParents) = .ok graph) ∧
      buildGraph mutualParents 1.0 = .error .circularDependency := by
  have short : mutualParents.length ≤ maxTaskId := by decide
  have passed : validateTasks mutualParents = .ok () := rfl
  obtain ⟨-, admitted, resolved⟩ := (validateTasks_ok_iff short).mp passed
  have down : Related mutualParents 1 2 := Or.inr (by simp [mutualParents])
  have up : Related mutualParents 2 1 := Or.inr (by simp [mutualParents])
  obtain ⟨-, errors, past⟩ := buildGraph_verdict 1.0 short
  refine ⟨short, passed, (past passed).2.2.2.2, ?_⟩
  exact (errors _).mpr (.cycle admitted resolved ⟨1, .tail (.single down) up⟩)

end DagScheduling
