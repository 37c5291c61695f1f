/-
Module: DagScheduling.Dispatch.Schedule
Purpose: A schedule in progress: tasks, resources, what is done and what is running.
Main exports: Schedule, Schedule.plan, Schedule.dispatch, Schedule.finishLast
-/
import DagScheduling.Dispatch.Binding
import DagScheduling.Dispatch.Readiness
import DagScheduling.Planning.Plan

namespace DagScheduling

/-- A schedule in progress. -/
structure Schedule where
  tasks : List Task := []
  resources : List Resource := []
  /-- The tasks that are done, in the order they were reported. -/
  completed : List TaskId := []
  priorities : Priorities := { values := #[] }
  /-- The bindings of the last dispatch, until they are finished. -/
  running : List Assignment := []

namespace Schedule

/-- The tasks that may start now. -/
def ready (schedule : Schedule) : List TaskId :=
  readyTasks schedule.tasks schedule.completed

/-- The order in which the tasks are released. -/
def releaseOrder (schedule : Schedule) : List TaskId :=
  fertileFirst schedule.tasks

/-- Take over the outcome of planning: the tasks as it left them, and its
priorities if there are any. -/
def adopt (schedule : Schedule) (planned : Planned) : Schedule :=
  match planned.result with
  | .ok priorities => { schedule with tasks := planned.tasks, priorities := priorities }
  | .error _ => { schedule with tasks := planned.tasks }

/-- Plan the tasks and keep their priorities. -/
def plan {σ : Type} [SeedableSource σ] (schedule : Schedule) (entropy : σ)
    (config : PlanningConfig) : Logged (Planned × Schedule) := do
  let planned ← planPriorities entropy config schedule.tasks
  pure (planned, schedule.adopt planned)

/-- Rank the tasks and keep their priorities, without writing them into the tasks. -/
def rank {σ : Type} [SeedableSource σ] (schedule : Schedule) (entropy : σ)
    (config : PlanningConfig) : Logged (Planned × Schedule) := do
  let result ← rankTasks entropy config schedule.tasks
  let planned : Planned := { result := result, tasks := schedule.tasks }
  pure (planned, schedule.adopt planned)

/-- Bind the given ready tasks to idle resources and remember the bindings. -/
def dispatch (schedule : Schedule) (ready : List TaskId) (verbosity : Verbosity) :
    Logged (Dispatch × Schedule) := do
  let outcome ← DagScheduling.dispatch ready schedule.priorities schedule.resources verbosity
  pure
    (outcome,
      { schedule with resources := outcome.resources, running := outcome.assignments })

/-- Count tasks as done. -/
def complete (schedule : Schedule) (ids : List TaskId) : Schedule :=
  { schedule with completed := schedule.completed ++ ids }

/-- Finish the last dispatch: its tasks are done, and every resource of a bound
number is idle again. -/
def finishLast (schedule : Schedule) : Schedule :=
  let bound := schedule.running.map Assignment.resource
  { schedule with
    completed := schedule.completed ++ schedule.running.map Assignment.task
    resources := schedule.resources.map fun resource =>
      if bound.contains resource.id then resource.release else resource
    running := [] }

/-- Make the resource at a position idle. -/
def release (schedule : Schedule) (position : Nat) : Schedule :=
  { schedule with resources := schedule.resources.modify position Resource.release }

/-- Add a task at the end of the list. -/
def addTask (schedule : Schedule) (task : Task) : Schedule :=
  { schedule with tasks := schedule.tasks ++ [task] }

/-- Add a resource at the end of the list. -/
def addResource (schedule : Schedule) (resource : Resource) : Schedule :=
  { schedule with resources := schedule.resources ++ [resource] }

end Schedule

end DagScheduling
