/-
Module: DagScheduling.Dispatch.Readiness
Purpose: Which tasks may start, and in which order tasks are released.
Main exports: parentsOf, readyTasks, fertileFirst
-/
import DagScheduling.Task

namespace DagScheduling

/-- The parents of a task, from whichever side the relation is recorded. A task
that names it as its child stands here once, however often it does, and once
more for each time that the task itself names it as a parent. -/
def parentsOf (tasks : List Task) (id : TaskId) : List TaskId :=
  tasks.flatMap fun other =>
    (if other.childIds.contains id then [other.id] else []) ++
      (if other.id == id then other.parentIds else [])

/-- Whether a task is not completed and all its parents are. -/
def isReady (tasks : List Task) (completed : List TaskId) (task : Task) : Bool :=
  !completed.contains task.id &&
    (parentsOf tasks task.id).all fun parent => completed.contains parent

/-- The tasks that may start, in list order. -/
def readyTasks (tasks : List Task) (completed : List TaskId) : List TaskId :=
  (tasks.filter (isReady tasks completed)).map Task.id

/-- The tasks by the number of children they record, most first; equal ones in
list order. -/
def fertileFirst (tasks : List Task) : List TaskId :=
  (tasks.mergeSort fun first second => second.childIds.length ≤ first.childIds.length).map Task.id

end DagScheduling
