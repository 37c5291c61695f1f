/-
Module: DagScheduling.Ranking.WidestPath
Purpose: The ranking that follows the child with the most children.
Main exports: WidestPath.descent, WidestPath.bestPath, WidestPath.rank
-/
import DagScheduling.Champion
import DagScheduling.Ranking.Course

namespace DagScheduling.WidestPath

/-!
A pass steps from the root to the child with the largest fan-out until it
stands on a leaf, ranks every node on its way that has no priority yet, and
deletes the leaf. Passes repeat until the root has no children.
-/

/-- A node has the better claim to be stepped to if its fan-out is larger. -/
def wider (graph : Graph) (challenger incumbent : NodeId) : Bool :=
  graph.fanOut incumbent < graph.fanOut challenger

/-- Log the fan-out of every child of a node. -/
def considerChildren (verbosity : Verbosity) (graph : Graph) (parent : NodeId) : Logged Unit :=
  noteAll verbosity <| (graph.childrenOf parent).map fun child =>
    .childConsidered child parent (graph.fanOut child)

/-- The nodes stepped to from `current` on if they are fewer than `fuel`, none
otherwise. Of children with equal fan-out the oldest is taken. -/
def walk (verbosity : Verbosity) (graph : Graph) :
    Nat → NodeId → Logged (Option (List NodeId))
  | 0, _ => pure none
  | fuel + 1, current => do
      considerChildren verbosity graph current
      match champion? (wider graph) (graph.childrenOf current) with
      | none => pure (some [])
      | some child =>
          let rest ← walk verbosity graph fuel child
          pure (rest.map (child :: ·))

/-- The widest path below the root, the root left out; none if it never ends.
Only a path that meets a node twice has more steps than the graph has nodes. -/
def descent (verbosity : Verbosity) (graph : Graph) : Logged (Option (List NodeId)) :=
  walk verbosity graph (graph.nodeCount + 1) root

/-- The widest path from the root down to a leaf; none if it never ends. -/
def bestPath (verbosity : Verbosity) (graph : Graph) : Logged (Option (List NodeId)) := do
  let steps ← descent verbosity graph
  pure (steps.map (root :: ·))

/-- Give a node the next priority if it has none. -/
def rankNode (verbosity : Verbosity) (standing : Standing) (node : NodeId) :
    Course Standing Standing := do
  let (ledger, issued) ← orStop standing (standing.ledger.assign node)
  match issued with
  | some priority => note verbosity (.priorityAssigned node priority)
  | none => note verbosity (.alreadyRanked node)
  pure { standing with ledger := ledger }

/-- Delete a leaf. -/
def deleteLeaf (verbosity : Verbosity) (standing : Standing) (leaf : NodeId) :
    Course Standing Standing := do
  let graph ← orStop standing ((standing.graph.removeNode leaf).mapError .graph)
  note verbosity (.taskRemoved leaf)
  pure { standing with graph := graph }

/-- Up to `fuel` passes. -/
def passes (verbosity : Verbosity) : Nat → Standing → Course Standing Standing
  | 0, standing => throw { failure := .broken .endlessWalk, state := standing }
  | fuel + 1, standing => do
      match ← descent verbosity standing.graph with
      | none => throw { failure := .broken .endlessWalk, state := standing }
      | some steps =>
          note verbosity (.bestPath (root :: steps))
          match steps.getLast? with
          | none => pure standing
          | some leaf =>
              let standing ← steps.foldlM (rankNode verbosity) standing
              let standing ← deleteLeaf verbosity standing leaf
              passes verbosity fuel standing

/-- Rank every node below the root. Each pass but the last deletes a node, so
there is at most one pass more than the graph has nodes. -/
def rank (verbosity : Verbosity) (graph : Graph) (ledger : Ledger) :
    Logged (Except (Stopped Standing) Standing) :=
  (passes verbosity (graph.nodeCount + 1) { graph := graph, ledger := ledger }).run

end DagScheduling.WidestPath
