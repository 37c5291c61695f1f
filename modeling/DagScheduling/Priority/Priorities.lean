/-
Module: DagScheduling.Priority.Priorities
Purpose: The complete priority array of a task list.
Main exports: Priorities, Priorities.get?, Priorities.pairs, Priorities.ranked
-/
import DagScheduling.Task

namespace DagScheduling

/-- Priorities of the tasks `1..=N`, in the order of their numbers. -/
structure Priorities where
  values : Array Priority
deriving Repr, DecidableEq

namespace Priorities

/-- Priorities listed for the tasks `1..=N` in order. -/
def ofList (values : List Priority) : Priorities :=
  { values := values.toArray }

/-- Number of tasks. -/
def size (priorities : Priorities) : Nat :=
  priorities.values.size

/-- Whether there are no tasks. -/
def isEmpty (priorities : Priorities) : Bool :=
  priorities.values.isEmpty

/-- Priority of a task; there is no task 0. -/
def get? (priorities : Priorities) (task : TaskId) : Option Priority :=
  match task with
  | 0 => none
  | index + 1 => priorities.values[index]?

/-- Each task with its priority, in the order of the tasks. -/
def pairs (priorities : Priorities) : List (TaskId × Priority) :=
  priorities.values.toList.zipIdx.map fun (priority, index) => (index + 1, priority)

/-- The tasks from the highest priority to the lowest, equal ones by their numbers. -/
def ranked (priorities : Priorities) : List TaskId :=
  (priorities.pairs.mergeSort fun first second =>
    second.2 < first.2 || (first.2 == second.2 && first.1 ≤ second.1)).map Prod.fst

end Priorities

end DagScheduling
