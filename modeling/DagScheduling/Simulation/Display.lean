/-
Module: DagScheduling.Simulation.Display
Purpose: One-line descriptions of the values that a simulation holds.
Main exports: Task.describe, Resource.describe, Settings.describe
-/
import DagScheduling.Config.Planning
import DagScheduling.Decimal.Shortest
import DagScheduling.Resource
import DagScheduling.Text.Quoted

namespace DagScheduling

/-- An optional number: `None`, or the number in `Some(...)`. -/
def describeOptional : Option Nat → String
  | none => "None"
  | some number => s!"Some({number})"

/-- A task in one line; of its relations only their number is told. -/
def Task.describe (task : Task) : String :=
  s!"Task(id={task.id}, cost=" ++ Decimal.shortest task.cost ++
    s!", parents={task.parentIds.length}, children={task.childIds.length}, priority=" ++
    describeOptional task.priority ++ ")"

/-- A resource in one line. -/
def Resource.describe (resource : Resource) : String :=
  s!"Resource(id={resource.id}, capacity=" ++ Decimal.shortest resource.capacity ++
    ", busy=" ++ (if resource.isIdle then "false" else "true") ++ ")"

/-- Settings in one line: the two choices as quoted text, and the seed. -/
def Settings.describe (settings : Settings) : String :=
  "PlanningConfig(algorithm=" ++ Text.quoted settings.algorithm ++
    ", selection=" ++ Text.quoted settings.selection ++
    ", seed=" ++ describeOptional (settings.seed.map UInt64.toNat) ++ ")"

end DagScheduling
