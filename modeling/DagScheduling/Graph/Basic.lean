/-
Module: DagScheduling.Graph.Basic
Purpose: Directed graphs with weighted edges, kept in the order they were added.
Main exports: Edge, Graph, Graph.ofNodeCount, Graph.edgesOf, Graph.childrenOf, Graph.fanOut,
  Graph.weight, Graph.addEdge, Graph.setWeight, Graph.removeNode, Graph.weighByFanOut
-/
import DagScheduling.Graph.Error

namespace DagScheduling

/-!
Every node keeps the list of its outgoing edges in the order they were added,
and whoever walks the graph breaks ties by that order. Removing a node leaves
its number in place, so that no other node changes its own. Nothing refuses a
repeated edge, a loop, or an edge added to a node after its removal.
-/

/-- An outgoing edge, as its source keeps it. -/
structure Edge where
  dest : NodeId
  weight : Float
deriving Repr

/-- A node: its outgoing edges, oldest first, and whether it has been removed. -/
structure Node where
  edges : List Edge := []
  removed : Bool := false
deriving Repr

/-- A graph whose edges all end at nodes it has. -/
@[ext] structure Graph where
  nodes : Array Node
  dest_lt : ∀ v (inRange : v < nodes.size), ∀ edge ∈ nodes[v].edges, edge.dest < nodes.size

/-- Give the first edge to `dest` another weight. -/
def reweighFirst (dest : NodeId) (weight : Float) : List Edge → List Edge
  | [] => []
  | edge :: rest =>
      if edge.dest = dest then { edge with weight := weight } :: rest
      else edge :: reweighFirst dest weight rest

/-- A new weight moves no edge. -/
theorem map_dest_reweighFirst (dest : NodeId) (weight : Float) (edges : List Edge) :
    (reweighFirst dest weight edges).map Edge.dest = edges.map Edge.dest := by
  induction edges with
  | nil => rfl
  | cons edge rest ih =>
      rw [reweighFirst]
      split
      · rfl
      · rw [List.map_cons, ih, List.map_cons]

namespace Graph

/-- A graph of so many nodes and no edges. -/
def ofNodeCount (count : Nat) : Graph :=
  { nodes := Array.replicate count {}
    dest_lt := by
      intro v inRange edge member
      simp at member }

/-- Number of nodes, the root and removed nodes included. -/
def nodeCount (graph : Graph) : Nat :=
  graph.nodes.size

/-- Outgoing edges of a node, oldest first; none where there is no such node. -/
def edgesOf (graph : Graph) (v : NodeId) : List Edge :=
  match graph.nodes[v]? with
  | some node => node.edges
  | none => []

/-- Ends of a node's outgoing edges, oldest first. -/
def childrenOf (graph : Graph) (v : NodeId) : List NodeId :=
  (graph.edgesOf v).map Edge.dest

/-- Number of outgoing edges. -/
def fanOut (graph : Graph) (v : NodeId) : Nat :=
  (graph.edgesOf v).length

/-- Whether there is an edge between two nodes. -/
def containsEdge (graph : Graph) (v w : NodeId) : Bool :=
  (graph.edgesOf v).any fun edge => edge.dest == w

/-- Weight of the oldest edge between two nodes, 0 where there is none. -/
def weight (graph : Graph) (v w : NodeId) : Float :=
  match (graph.edgesOf v).find? fun edge => edge.dest == w with
  | some edge => edge.weight
  | none => 0.0

/-- Whether a node has been removed. -/
def isRemoved (graph : Graph) (v : NodeId) : Bool :=
  match graph.nodes[v]? with
  | some node => node.removed
  | none => false

/-- The removed nodes in ascending order. -/
def removedNodes (graph : Graph) : List NodeId :=
  (List.range graph.nodeCount).filter graph.isRemoved

/-- Replace the outgoing edges of one node by others that end in range. -/
def withEdges (graph : Graph) (v : NodeId) (change : List Edge → List Edge)
    (keeps : ∀ edges : List Edge, (∀ edge ∈ edges, edge.dest < graph.nodeCount) →
      ∀ edge ∈ change edges, edge.dest < graph.nodeCount) : Graph :=
  { nodes := graph.nodes.modify v fun node => { node with edges := change node.edges }
    dest_lt := by
      intro u inRange edge member
      rw [Array.size_modify] at inRange ⊢
      rw [Array.getElem_modify] at member
      split at member
      · exact keeps _ (graph.dest_lt u inRange) edge member
      · exact graph.dest_lt u inRange edge member }

/-- Append an edge to its source's list. Of two missing ends the source is reported. -/
def addEdge (graph : Graph) (source dest : NodeId) (weight : Float) : Except GraphError Graph :=
  if source < graph.nodeCount then
    if destInRange : dest < graph.nodeCount then
      .ok <| graph.withEdges source (fun edges => edges ++ [{ dest := dest, weight := weight }]) <| by
        intro edges bounded edge member
        rcases List.mem_append.mp member with old | new
        · exact bounded edge old
        · rw [List.mem_singleton] at new
          rw [new]
          exact destInRange
    else .error (.nodeOutOfRange dest)
  else .error (.nodeOutOfRange source)

/-- Replace the weight of the oldest edge between two nodes. Never adds one. -/
def setWeight (graph : Graph) (v w : NodeId) (weight : Float) : Except GraphError Graph :=
  if v < graph.nodeCount then
    if graph.containsEdge v w then
      .ok <| graph.withEdges v (reweighFirst w weight) <| by
        intro edges bounded edge member
        have dests := List.mem_map_of_mem (f := Edge.dest) member
        rw [map_dest_reweighFirst] at dests
        obtain ⟨old, oldMember, same⟩ := List.mem_map.mp dests
        rw [← same]
        exact bounded old oldMember
    else .error (.edgeNotFound v w)
  else .error (.nodeOutOfRange v)

/-- Take a node out of every later walk: drop the edges that end at it, then
its own, and mark it removed. -/
def removeNode (graph : Graph) (v : NodeId) : Except GraphError Graph :=
  if v < graph.nodeCount then
    .ok
      { nodes := (graph.nodes.map fun node =>
          { node with edges := node.edges.filter fun edge => edge.dest != v }).modify v
            fun _ => { edges := [], removed := true }
        dest_lt := by
          intro u inRange edge member
          rw [Array.size_modify, Array.size_map] at inRange ⊢
          rw [Array.getElem_modify] at member
          split at member
          · exact absurd member List.not_mem_nil
          · rw [Array.getElem_map] at member
            exact graph.dest_lt u inRange edge (List.mem_filter.mp member).1 }
  else .error (.nodeOutOfRange v)

/-- Weigh every edge by the fan-out of its end: `base + multiplier * fan-out`. -/
def weighByFanOut (graph : Graph) (base multiplier : Float) : Graph :=
  { nodes := graph.nodes.map fun node =>
      { node with
        edges := node.edges.map fun edge =>
          { edge with weight := base + multiplier * Float.ofNat (graph.fanOut edge.dest) } }
    dest_lt := by
      intro u inRange edge member
      rw [Array.size_map] at inRange ⊢
      rw [Array.getElem_map] at member
      obtain ⟨old, oldMember, same⟩ := List.mem_map.mp member
      rw [← same]
      exact graph.dest_lt u inRange old oldMember }

end Graph

end DagScheduling
