/-
Module: DagScheduling.Graph.Reachability
Purpose: The nodes below a node.
Main exports: Graph.nodesBelow, Graph.reachableCount
-/
import DagScheduling.Graph.Basic

namespace DagScheduling.Graph

/-!
A search with an explicit stack. It carries the nodes not yet seen; a popped
node moves its unseen children from there to the stack, so the two together
lose one entry with every pop, whatever cycles the graph has.
-/

/-- The unseen nodes that an edge from `node` leads to. -/
def unseenChildren (graph : Graph) (node : NodeId) (unseen : List NodeId) : List NodeId :=
  unseen.filter fun w => graph.containsEdge node w

/-- The unseen nodes that no edge from `node` leads to. -/
def unseenOthers (graph : Graph) (node : NodeId) (unseen : List NodeId) : List NodeId :=
  unseen.filter fun w => !graph.containsEdge node w

theorem length_unseenChildren_add_length_unseenOthers (graph : Graph) (node : NodeId)
    (unseen : List NodeId) :
    (graph.unseenChildren node unseen).length + (graph.unseenOthers node unseen).length =
      unseen.length := by
  have together := List.length_eq_countP_add_countP (graph.containsEdge node) (l := unseen)
  simpa [unseenChildren, unseenOthers, List.countP_eq_length_filter] using together.symm

/-- Every node of `unseen` that the search finds from the nodes on the stack. -/
def explore (graph : Graph) (unseen stack : List NodeId) : List NodeId :=
  match stack with
  | [] => []
  | node :: waiting =>
      let fresh := graph.unseenChildren node unseen
      fresh ++ explore graph (graph.unseenOthers node unseen) (fresh ++ waiting)
termination_by unseen.length + stack.length
decreasing_by
  have together := length_unseenChildren_add_length_unseenOthers graph node unseen
  simp only [List.length_append, List.length_cons]
  omega

/-- The nodes other than `v` that a path from `v` leads to, each once. -/
def nodesBelow (graph : Graph) (v : NodeId) : List NodeId :=
  if v < graph.nodeCount then
    graph.explore ((List.range graph.nodeCount).filter (· != v)) [v]
  else []

/-- Number of nodes other than `v` that a path from `v` leads to. -/
def reachableCount (graph : Graph) (v : NodeId) : Nat :=
  (graph.nodesBelow v).length

end DagScheduling.Graph
