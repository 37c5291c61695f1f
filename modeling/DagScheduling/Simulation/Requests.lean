/-
Module: DagScheduling.Simulation.Requests
Purpose: Planning and dispatch as a simulation asks for them: with settings in
  words, priorities in a table, and errors as text.
Main exports: Simulation.Report, Simulation.planPriorities, Simulation.Bindings, Simulation.dispatch
-/
import DagScheduling.Dispatch.Binding
import DagScheduling.Planning.Plan
import DagScheduling.Simulation.PriorityTable

namespace DagScheduling.Simulation

/-- What a simulation is told about a planning request: the priority of each
task in the order of their numbers, or an error's text; and its tasks
afterwards. -/
structure Report where
  result : Except (Failure String) (List (TaskId × Priority))
  tasks : List Task

/-- Plan the tasks under settings, or under the defaults. Settings that denote
no configuration fail before anything is planned. Planning works on copies of
the tasks; only if it succeeds is each task given its priority. -/
def planPriorities {σ : Type} [SeedableSource σ] (entropy : σ) (settings : Option Settings)
    (tasks : List Task) : Logged Report := do
  match (settings.getD (Settings.ofConfig {})).toConfig with
  | .error cause => pure { result := .error (.reported cause.message), tasks := tasks }
  | .ok config =>
      let planned ← DagScheduling.planPriorities entropy config tasks
      match planned.result with
      | .error failure =>
          pure { result := .error (failure.restate PlanningError.message), tasks := tasks }
      | .ok priorities =>
          pure { result := .ok priorities.pairs, tasks := writePriorities priorities tasks }

/-- What a simulation is told about a dispatch request: the bindings in the
order they were made, and its resources afterwards. -/
structure Bindings where
  pairs : List (TaskId × ResourceId)
  resources : List Resource
deriving Repr

/-- The resource, busy or not as the other one is. -/
def copyState (own other : Resource) : Resource :=
  { own with state := if other.isIdle then .idle else .busy }

/-- One dispatch cycle under the priorities of a table. Dispatch works on copies
of the resources; each of the simulation's own then takes over whether its copy
is busy. -/
def dispatch (ready : List TaskId) (table : PriorityTable) (resources : List Resource)
    (verbosity : Verbosity) : Logged Bindings := do
  let outcome ← DagScheduling.dispatch ready table.toPriorities resources verbosity
  pure
    { pairs := outcome.assignments.map fun bound => (bound.task, bound.resource)
      resources := List.zipWith copyState resources outcome.resources }

end DagScheduling.Simulation
