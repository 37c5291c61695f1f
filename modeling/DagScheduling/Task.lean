/-
Module: DagScheduling.Task
Purpose: Tasks, the relations they record, and the set of tasks that are done.
Main exports: TaskId, Priority, Task
-/

namespace DagScheduling

/-- A task's number. A well-formed list of `N` tasks has the numbers `1..=N`. -/
abbrev TaskId := Nat

/-- A scheduling hint: tasks with greater priorities go first. -/
abbrev Priority := Nat

/-- A task with the relations recorded on its side. A relation may be recorded
by the parent, by the child or by both. -/
structure Task where
  id : TaskId
  /-- Length of the task: an instruction count, a number of seconds. -/
  cost : Float := 1.0
  parentIds : List TaskId := []
  childIds : List TaskId := []
  /-- Set by planning, none before. -/
  priority : Option Priority := none
deriving Repr

end DagScheduling
