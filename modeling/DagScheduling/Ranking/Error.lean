/-
Module: DagScheduling.Ranking.Error
Purpose: Why a ranking stops before its end.
Main exports: RankingError, RankingError.message, Breach, Failure
-/
import DagScheduling.Graph.Error
import DagScheduling.Log.Event

namespace DagScheduling

/-- What can be wrong with the graph, ledger and cost table a ranking is given. -/
inductive RankingError where
  | graph (cause : GraphError)
  | unknownNode (node : NodeId)
  | duplicatePriorityAssignment (task : Nat)
  | incompletePriorities (tasks : List Nat)
  | costTableMismatch (expected actual : Nat)
deriving Repr, DecidableEq

/-- The wording of a ranking error; a graph error keeps its own. -/
def RankingError.message : RankingError → String
  | .graph cause => cause.message
  | .unknownNode node => s!"Node {node} has no priority slot"
  | .duplicatePriorityAssignment task => s!"Task {task} was finalized twice"
  | .incompletePriorities tasks => "Tasks left without a priority: " ++ bracketed tasks
  | .costTableMismatch expected actual =>
      s!"Cost table has {actual} entries, graph has {expected} nodes"

/-- A condition that a computation relies on and does not report when it fails:
there is no answer at all then. -/
inductive Breach where
  /-- A node was looked up beyond the end of the cost table. -/
  | missingCost (node : NodeId)
  /-- The clamp bounds are out of order, or one of them is NaN. -/
  | unorderedBounds (lower upper : Float)
  /-- A walk had not ended after all the steps it was given. -/
  | endlessWalk
deriving Repr

/-- Why a computation gave no result: an error it reports, or a breach of what
it relies on. -/
inductive Failure (ε : Type) where
  | reported (cause : ε)
  | broken (cause : Breach)
deriving Repr

/-- Restate the error that a failure reports. -/
def Failure.restate {ε ε' : Type} (change : ε → ε') : Failure ε → Failure ε'
  | .reported cause => .reported (change cause)
  | .broken cause => .broken cause

end DagScheduling
