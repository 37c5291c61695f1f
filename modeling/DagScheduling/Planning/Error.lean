/-
Module: DagScheduling.Planning.Error
Purpose: Why a task list cannot be planned.
Main exports: PlanningError, PlanningError.message, PlanningError.ofRanking
-/
import DagScheduling.Config.Error
import DagScheduling.Ranking.Error
import DagScheduling.Task

namespace DagScheduling

/-- Why a task list cannot be planned. -/
inductive PlanningError where
  | emptyGraph
  | invalidTaskId (task : TaskId)
  | duplicateTaskId (task : TaskId)
  | unknownDependency (task dependency : TaskId)
  | invalidCost (task : TaskId) (cost : Float)
  | circularDependency
  | duplicatePriorityAssignment (task : TaskId)
  | incompletePriorities (tasks : List TaskId)
  | graph (cause : GraphError)
  | config (cause : ConfigError)
  | ranking (cause : RankingError)
deriving Repr

namespace PlanningError

/-- The wording of a planning error; errors of the parts keep their own. -/
def message : PlanningError → String
  | emptyGraph => "Task list is empty"
  | invalidTaskId task => s!"Task id {task} is outside 1..=N"
  | duplicateTaskId task => s!"Task id {task} appears more than once"
  | unknownDependency task dependency => s!"Task {task} references unknown task {dependency}"
  | invalidCost task cost => s!"Task {task} has non-positive cost " ++ Decimal.shortest cost
  | circularDependency => "Circular dependency detected"
  | duplicatePriorityAssignment task => s!"Task {task} was finalized twice"
  | incompletePriorities tasks => "Tasks left without a priority: " ++ bracketed tasks
  | graph cause => cause.message
  | config cause => cause.message
  | ranking cause => cause.message

/-- A ranking error as planning reports it. Those that planning has a name for
take that name. -/
def ofRanking : RankingError → PlanningError
  | .graph cause => graph cause
  | .duplicatePriorityAssignment task => duplicatePriorityAssignment task
  | .incompletePriorities tasks => incompletePriorities tasks
  | other => ranking other

/-- A restated ranking error keeps its wording. -/
theorem message_ofRanking (cause : RankingError) : (ofRanking cause).message = cause.message := by
  cases cause <;> rfl

end PlanningError

end DagScheduling
