/-
Module: DagScheduling.Log.Event
Purpose: The things worth a line in the log, their levels and their wording.
Main exports: Verbosity, Level, Level.shownAt, levelName, Event, Event.level, Event.text, Event.line
-/
import DagScheduling.Decimal.Shortest
import DagScheduling.Decimal.FixedPlaces

namespace DagScheduling

/-- How much a caller wants to read: 0 is silent, and each step up adds the
next `Level`. -/
abbrev Verbosity := Nat

/-- What a log line is about: changes made, checks behind them, or the inner
state of a ranking. -/
inductive Level where
  | changes
  | checks
  | debug
deriving Repr, DecidableEq

/-- The least verbosity at which a level is shown. -/
def Level.threshold : Level → Verbosity
  | .changes => 1
  | .checks => 2
  | .debug => 3

/-- The tag written in front of a line. -/
def Level.tag : Level → String
  | .changes => "changes"
  | .checks => "checks"
  | .debug => "debug"

/-- Whether lines of this level are shown at a verbosity. -/
def Level.shownAt (level : Level) (verbosity : Verbosity) : Bool :=
  level.threshold ≤ verbosity

/-- Name of the highest level shown at a verbosity. -/
def levelName (verbosity : Verbosity) : String :=
  match verbosity with
  | 0 => "silent"
  | 1 => "changes"
  | 2 => "checks"
  | _ => "debug"

/-- Numbers between square brackets, as they stand in messages and log lines. -/
def bracketed (numbers : List Nat) : String :=
  "[" ++ ", ".intercalate (numbers.map toString) ++ "]"

/-- One thing worth a line. Tasks and nodes are named by their numbers. -/
inductive Event where
  /-- A free text of the caller's own. -/
  | remark (level : Level) (text : String)
  /-- A ranking of so many tasks starts. -/
  | rankingStarted (taskCount : Nat) (algorithm : String) (levelName : String)
  /-- A child is looked at while the widest path is built. -/
  | childConsidered (child parent fanOut : Nat)
  /-- The widest path, root included. -/
  | bestPath (path : List Nat)
  /-- The score of a child that the drop may step to. -/
  | candidateScored (child parent : Nat) (score : Float)
  /-- A random share was drawn. -/
  | drawn (share : Float)
  /-- The drop crossed an edge and eroded it. -/
  | edgeCrossed (source dest : Nat) (before after velocity soil : Float)
  /-- A task got its priority. -/
  | priorityAssigned (task priority : Nat)
  /-- A task was met again after it got its priority. -/
  | alreadyRanked (task : Nat)
  /-- A task left the graph. -/
  | taskRemoved (task : Nat)
  /-- The drop came to rest. -/
  | dropFinished (velocity soil : Float)
  /-- A busy resource was passed over. -/
  | resourceBusy (resource : Nat)
  /-- An idle resource was considered. -/
  | resourceIdle (resource : Nat) (capacity : Float)
  /-- A task found every resource busy. -/
  | noIdleResource (task priority : Nat)
  /-- A task was bound to a resource. -/
  | taskBound (task priority resource : Nat) (capacity : Float)
deriving Repr

/-- The level an event is shown at. -/
def Event.level : Event → Level
  | .remark level _ => level
  | .rankingStarted .. => .changes
  | .childConsidered .. => .checks
  | .bestPath .. => .debug
  | .candidateScored .. => .checks
  | .drawn .. => .debug
  | .edgeCrossed .. => .debug
  | .priorityAssigned .. => .changes
  | .alreadyRanked .. => .checks
  | .taskRemoved .. => .changes
  | .dropFinished .. => .debug
  | .resourceBusy .. => .checks
  | .resourceIdle .. => .checks
  | .noIdleResource .. => .checks
  | .taskBound .. => .changes

open Decimal in
/-- The wording of an event. Weights, velocities and soil have four decimals,
scores and draws six, and capacities their shortest form. -/
def Event.text : Event → String
  | .remark _ text => text
  | .rankingStarted taskCount algorithm levelName =>
      s!"Ranking {taskCount} tasks with {algorithm} (log level {levelName})"
  | .childConsidered child parent fanOut =>
      s!"    Child {child} of {parent} has fan-out {fanOut}"
  | .bestPath path => "  Best path: " ++ bracketed path
  | .candidateScored child parent score =>
      s!"    Candidate {child} from {parent}: score " ++ fixedPlaces 6 score
  | .drawn share => "    Draw " ++ fixedPlaces 6 share
  | .edgeCrossed source dest before after velocity soil =>
      s!"    Edge {source} -> {dest}: weight " ++ fixedPlaces 4 before ++ " -> " ++
        fixedPlaces 4 after ++ ", velocity " ++ fixedPlaces 4 velocity ++ ", soil " ++
        fixedPlaces 4 soil
  | .priorityAssigned task priority => s!"  Assigned priority {priority} to task {task}"
  | .alreadyRanked task => s!"    Task {task} already ranked"
  | .taskRemoved task => s!"  Removed task {task} from graph"
  | .dropFinished velocity soil =>
      "  Drop finished with velocity " ++ fixedPlaces 4 velocity ++ ", soil " ++
        fixedPlaces 4 soil
  | .resourceBusy resource => s!"    Resource {resource} is busy, skipping"
  | .resourceIdle resource capacity =>
      s!"    Resource {resource} idle with capacity " ++ shortest capacity
  | .noIdleResource task priority =>
      s!"    No idle resource for task {task} (priority {priority})"
  | .taskBound task priority resource capacity =>
      s!"  Bound task {task} (priority {priority}) to resource {resource} (capacity " ++
        shortest capacity ++ ")"

/-- The line written for an event: tag, then wording. -/
def Event.line (event : Event) : String :=
  s!"[iwd-sched {event.level.tag}] " ++ event.text

end DagScheduling
