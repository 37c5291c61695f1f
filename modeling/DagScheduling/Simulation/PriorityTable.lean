/-
Module: DagScheduling.Simulation.PriorityTable
Purpose: Priorities of some tasks, by task number.
Main exports: PriorityTable, PriorityTable.find?, PriorityTable.toPriorities
-/
import DagScheduling.Priority.Priorities

namespace DagScheduling

/-- Priorities stated for some task numbers. Of two entries for one number the
later one holds. -/
structure PriorityTable where
  entries : List (TaskId × Priority) := []
deriving Repr, DecidableEq

namespace PriorityTable

/-- The priority stated for a number. -/
def find? (table : PriorityTable) (id : TaskId) : Option Priority :=
  (table.entries.reverse.find? fun entry => entry.1 == id).map Prod.snd

/-- The greatest number with an entry, 0 if there is none. -/
def greatest (table : PriorityTable) : TaskId :=
  (table.entries.map Prod.fst).max?.getD 0

/-- Priorities for all tasks up to the greatest number with an entry, 0 for
those without one. There is no task 0, so what is stated for that number counts
for nothing. -/
def toPriorities (table : PriorityTable) : Priorities :=
  { values := Array.ofFn fun index : Fin table.greatest => (table.find? (index + 1)).getD 0 }

end PriorityTable

end DagScheduling
