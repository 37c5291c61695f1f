/-
Module: DagScheduling.Planning.Validation
Purpose: The checks a task list has to pass before its relations are looked at.
Main exports: maxTaskId, validateTasks
-/
import DagScheduling.Planning.Error

namespace DagScheduling

/-- Whether a number is one of the task numbers `1..=count`. -/
def isTaskNumber (count id : Nat) : Bool :=
  1 ≤ id && id ≤ count

/-- Whether a cost is finite and above zero. -/
def isAdmissibleCost (cost : Float) : Bool :=
  cost.isFinite && !(cost ≤ 0.0)

/-- Check number and cost of each task in turn; `seen` holds the numbers of the
tasks before. -/
def checkTasks (count : Nat) : List TaskId → List Task → Except PlanningError Unit
  | _, [] => .ok ()
  | seen, task :: rest =>
      if !isTaskNumber count task.id then .error (.invalidTaskId task.id)
      else if seen.contains task.id then .error (.duplicateTaskId task.id)
      else if !isAdmissibleCost task.cost then .error (.invalidCost task.id task.cost)
      else checkTasks count (task.id :: seen) rest

/-- Check that a task's references, parents before children, are task numbers. -/
def checkReferences (count : Nat) (task : Task) : Except PlanningError Unit :=
  match (task.parentIds ++ task.childIds).find? fun id => !isTaskNumber count id with
  | some dependency => .error (.unknownDependency task.id dependency)
  | none => .ok ()

/-- The greatest number a task can have. -/
def maxTaskId : TaskId := 4294967295

/-- Check that the tasks are numbered `1..=N` and have admissible costs, and,
once all do, that their references are task numbers. The first fault is
reported. A list with more tasks than there are task numbers is refused at once. -/
def validateTasks (tasks : List Task) : Except PlanningError Unit := do
  if tasks.isEmpty then
    throw .emptyGraph
  if maxTaskId < tasks.length then
    throw (.invalidTaskId maxTaskId)
  checkTasks tasks.length [] tasks
  tasks.forM (checkReferences tasks.length)

end DagScheduling
