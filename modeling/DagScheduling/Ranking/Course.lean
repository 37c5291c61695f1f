/-
Module: DagScheduling.Ranking.Course
Purpose: The run of a ranking: what it works on, what it logs, and how it stops early.
Main exports: Standing, Stopped, Course, orStop, orBreach
-/
import DagScheduling.Graph.Basic
import DagScheduling.Log.Logged
import DagScheduling.Priority.Ledger

namespace DagScheduling

/-- The graph that a ranking takes apart and the ledger that it fills. -/
structure Standing where
  graph : Graph
  ledger : Ledger

/-- A ranking that stopped before its end: why, and how far it had come. -/
structure Stopped (S : Type) where
  failure : Failure RankingError
  state : S

/-- A logged computation that may stop early and then tells the state it left. -/
abbrev Course (S α : Type) := ExceptT (Stopped S) Logged α

/-- How a course from a state to a state left it, early or not. -/
def finalState {S : Type} : Except (Stopped S) S → S
  | .ok state => state
  | .error stopped => stopped.state

/-- Go on with a value, or stop in `state` with the error in its place. -/
def orStop {S α : Type} (state : S) : Except RankingError α → Course S α
  | .ok value => pure value
  | .error cause => throw { failure := .reported cause, state := state }

/-- Go on with a value, or stop in `state` at the breach in its place. -/
def orBreach {S α : Type} (state : S) : Except Breach α → Course S α
  | .ok value => pure value
  | .error cause => throw { failure := .broken cause, state := state }

end DagScheduling
