/-
Module: DagScheduling.Planning.TaskGraph
Purpose: The graph that a task list stands for.
Main exports: recordedRelations, relations, buildGraph
-/
import DagScheduling.Graph.Basic
import DagScheduling.Planning.Acyclicity
import DagScheduling.Planning.Validation

namespace DagScheduling

/-- The relations a task records to its children. -/
def Task.childRelations (task : Task) : List Relation :=
  task.childIds.map fun child => (task.id, child)

/-- The relations a task records to its parents. -/
def Task.parentRelations (task : Task) : List Relation :=
  task.parentIds.map fun parent => (parent, task.id)

/-- Every relation as often as it is recorded: the children of each task in
list order, then the parents of each task in list order. -/
def recordedRelations (tasks : List Task) : List Relation :=
  tasks.flatMap Task.childRelations ++ tasks.flatMap Task.parentRelations

/-- Every relation once, where it is first recorded. -/
def relations (tasks : List Task) : List Relation :=
  (recordedRelations tasks).eraseDups

/-- The relations of the root: it is the parent of every task that has none. -/
def rootRelations (tasks : List Task) : List Relation :=
  let related := relations tasks
  (tasks.filter fun task => !related.any fun relation => relation.2 == task.id).map
    fun task => (root, task.id)

/-- Add an edge for each relation, in order. -/
def addRelations (graph : Graph) (weight : Float) (related : List Relation) :
    Except GraphError Graph :=
  related.foldlM (fun graph relation => graph.addEdge relation.1 relation.2 weight) graph

/-- The graph of a task list: the root's edges, then an edge for each relation,
all of one weight. -/
def buildGraph (tasks : List Task) (weight : Float) : Except PlanningError Graph := do
  validateTasks tasks
  let count := tasks.length + 1
  let related := relations tasks
  if !isAcyclic count related then
    throw .circularDependency
  (addRelations (Graph.ofNodeCount count) weight (rootRelations tasks ++ related)).mapError .graph

end DagScheduling
