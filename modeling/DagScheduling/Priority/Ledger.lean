/-
Module: DagScheduling.Priority.Ledger
Purpose: Descending priorities issued one by one, each node at most once.
Main exports: Ledger, Ledger.ofTaskCount, Ledger.assign, Ledger.get?, Ledger.toPriorities
-/
import DagScheduling.Priority.Priorities
import DagScheduling.Ranking.Error

namespace DagScheduling

/-- The priorities issued so far. The first node gets the number of tasks, the
last gets 1, and the root gets none. -/
structure Ledger where
  /-- One slot for each node from the root on. -/
  slots : Array (Option Priority)
  /-- The priority that is issued next. -/
  next : Priority
deriving Repr, DecidableEq

namespace Ledger

/-- A ledger with nothing issued, for the tasks `1..=count`. -/
def ofTaskCount (count : Nat) : Ledger :=
  { slots := Array.replicate (count + 1) none, next := count }

/-- The priority issued to a node. -/
def get? (ledger : Ledger) (node : NodeId) : Option Priority :=
  match ledger.slots[node]? with
  | some slot => slot
  | none => none

/-- Whether a node has its priority. -/
def isAssigned (ledger : Ledger) (node : NodeId) : Bool :=
  (ledger.get? node).isSome

/-- Number of priorities issued so far. -/
def assignedCount (ledger : Ledger) : Nat :=
  ledger.slots.toList.countP Option.isSome

/-- Issue the next priority to a node that has none, and say which it is.
Nothing happens to the root or to a node that has its priority. -/
def assign (ledger : Ledger) (node : NodeId) :
    Except RankingError (Ledger × Option Priority) :=
  if node = root then .ok (ledger, none)
  else
    match ledger.slots[node]? with
    | none => .error (.unknownNode node)
    | some (some _) => .ok (ledger, none)
    | some none =>
        match ledger.next with
        | 0 => .error (.duplicatePriorityAssignment node)
        | below + 1 =>
            .ok
              ({ slots := ledger.slots.setIfInBounds node (some (below + 1)), next := below },
                some (below + 1))

/-- The tasks that have no priority yet, in ascending order. -/
def unassigned (ledger : Ledger) : List TaskId :=
  ((List.range ledger.slots.size).drop 1).filter fun node => !ledger.isAssigned node

/-- The complete array, if no task is left without a priority. -/
def toPriorities (ledger : Ledger) : Except RankingError Priorities :=
  match ledger.unassigned with
  | [] => .ok (Priorities.ofList ((ledger.slots.toList.drop 1).filterMap id))
  | missing => .error (.incompletePriorities missing)

end Ledger

end DagScheduling
