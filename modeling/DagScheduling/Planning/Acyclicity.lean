/-
Module: DagScheduling.Planning.Acyclicity
Purpose: Whether relations between tasks have a cycle.
Main exports: Relation, Sweep, Sweep.start, Sweep.visit, Sweep.finish, isAcyclic
-/
import DagScheduling.Graph.Error

namespace DagScheduling

/-!
A sweep visits the nodes that wait for nothing, and each visit may free the
nodes that waited for it. The nodes on a cycle, and those below one, are never
freed, so there is no cycle exactly if every node gets its visit. The root
stands above all relations and takes no part.
-/

/-- A parent and its child. -/
abbrev Relation := NodeId × NodeId

/-- State of a sweep. -/
structure Sweep where
  /-- For each node the number of relations to parents not visited yet. -/
  waiting : Array Nat
  /-- The nodes that are free to be visited, in the order they became free. -/
  queue : List NodeId
  /-- The nodes visited, the latest first. -/
  visited : List NodeId := []
deriving Repr

namespace Sweep

/-- Count the relations into each of the nodes `0..count`. -/
def countParents (count : Nat) (relations : List Relation) : Array Nat :=
  relations.foldl (fun counts relation => counts.modify relation.2 (· + 1))
    (Array.replicate count 0)

/-- The sweep before its first visit. -/
def start (count : Nat) (relations : List Relation) : Sweep :=
  let waiting := countParents count relations
  { waiting := waiting
    queue := ((List.range count).drop 1).filter fun node => waiting[node]? == some 0 }

/-- One relation into `child` less to wait for. -/
def free (sweep : Sweep) (child : NodeId) : Sweep :=
  let waiting := sweep.waiting.modify child (· - 1)
  { sweep with
    waiting := waiting
    queue := if waiting[child]? == some 0 then sweep.queue ++ [child] else sweep.queue }

/-- Ends of the relations from a node, in the order recorded. -/
def successors (relations : List Relation) (node : NodeId) : List NodeId :=
  (relations.filter fun relation => relation.1 == node).map Prod.snd

/-- Visit the first node of the queue, if there is one. -/
def visit (relations : List Relation) (sweep : Sweep) : Sweep :=
  match sweep.queue with
  | [] => sweep
  | node :: rest =>
      (successors relations node).foldl free
        { sweep with queue := rest, visited := node :: sweep.visited }

/-- Up to `fuel` visits. -/
def run (relations : List Relation) : Nat → Sweep → Sweep
  | 0, sweep => sweep
  | fuel + 1, sweep =>
      if sweep.queue.isEmpty then sweep else run relations fuel (sweep.visit relations)

/-- The sweep after its last visit. No node becomes free twice, so there are
fewer visits than nodes. -/
def finish (count : Nat) (relations : List Relation) : Sweep :=
  run relations count (start count relations)

end Sweep

/-- Whether no relations between the nodes `1..count` form a cycle. -/
def isAcyclic (count : Nat) (relations : List Relation) : Bool :=
  (Sweep.finish count relations).visited.length == count - 1

end DagScheduling
