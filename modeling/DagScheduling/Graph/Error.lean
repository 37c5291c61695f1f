/-
Module: DagScheduling.Graph.Error
Purpose: What can be wrong with a change to a graph.
Main exports: NodeId, root, GraphError, GraphError.message
-/

namespace DagScheduling

/-- A node's number. Nodes are numbered from 0 without gaps. -/
abbrev NodeId := Nat

/-- The node above all tasks, a task of no one's own. -/
def root : NodeId := 0

/-- What can be wrong with a change to a graph. -/
inductive GraphError where
  | nodeOutOfRange (node : NodeId)
  | edgeNotFound (source dest : NodeId)
deriving Repr, DecidableEq

/-- The wording of a graph error. -/
def GraphError.message : GraphError → String
  | .nodeOutOfRange node => s!"Node {node} is out of range"
  | .edgeNotFound source dest => s!"Edge {source} -> {dest} not found"

end DagScheduling
