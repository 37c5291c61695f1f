/-
Module: DagScheduling.Planning.Plan
Purpose: Priorities for a task list by the configured ranking.
Main exports: rankTasks, planPriorities, Planned
-/
import DagScheduling.Config.Planning
import DagScheduling.Planning.TaskGraph
import DagScheduling.Random.WordSource
import DagScheduling.Ranking.WaterDrop
import DagScheduling.Ranking.WidestPath

namespace DagScheduling

variable {σ : Type} [SeedableSource σ]

/-- A logged computation that may fail with a planning error. -/
abbrev Planning (α : Type) := ExceptT (Failure PlanningError) Logged α

/-- Go on with a value, or fail with the error in its place. -/
def orFail {ε α : Type} (restate : ε → PlanningError) : Except ε α → Planning α
  | .ok value => pure value
  | .error cause => throw (.reported (restate cause))

/-- Go on with the state that a ranking reached, or fail as it did. -/
def orFailRanking {S : Type} (ranked : Logged (Except (Stopped S) S)) : Planning S := do
  match ← ranked with
  | .ok state => pure state
  | .error stopped => throw (stopped.failure.restate .ofRanking)

/-- Cost of each task at its number; 1 for the root. -/
def costTable (tasks : List Task) : Array Float :=
  tasks.foldl (fun costs task => costs.setIfInBounds task.id task.cost)
    (Array.replicate (tasks.length + 1) 1.0)

/-- The source of a run: from the seed, or the caller's entropy if there is none. -/
def generator (entropy : σ) : Option UInt64 → σ
  | some seed => SeedableSource.ofSeed seed
  | none => entropy

/-- Fill a fresh ledger by the configured ranking. -/
def fillLedger (entropy : σ) (config : PlanningConfig) (tasks : List Task) (graph : Graph) :
    Planning Ledger := do
  let ledger := Ledger.ofTaskCount tasks.length
  match config.algorithm with
  | .widestPath =>
      let standing ← orFailRanking (WidestPath.rank config.verbosity graph ledger)
      pure standing.ledger
  | .waterDrop =>
      let bed : Riverbed :=
        { params := config.waterDrop, costs := costTable tasks, verbosity := config.verbosity }
      let flow ← orFailRanking (bed.rank graph ledger (generator entropy config.waterDrop.seed))
      note config.verbosity (.dropFinished flow.drop.velocity flow.drop.soil)
      pure flow.ledger

/-- The first task whose priority is 0 or that of a task before it; `issued`
holds the priorities of the tasks before. -/
def firstRepeated : List Priority → List (TaskId × Priority) → Option TaskId
  | _, [] => none
  | issued, (task, priority) :: rest =>
      if priority == 0 || issued.contains priority then some task
      else firstRepeated (priority :: issued) rest

/-- Refuse priorities that do not tell all tasks apart. -/
def requireDistinct (priorities : Priorities) : Except PlanningError Priorities :=
  match firstRepeated [] priorities.pairs with
  | some task => .error (.duplicatePriorityAssignment task)
  | none => .ok priorities

/-- Rank the tasks and give the complete priorities. The tasks stay as they
are, and a failure gives nothing. -/
def rankTasks (entropy : σ) (config : PlanningConfig) (tasks : List Task) :
    Logged (Except (Failure PlanningError) Priorities) :=
  ExceptT.run do
    orFail .config config.validate
    let graph ← orFail id (buildGraph tasks 1.0)
    note config.verbosity
      (.rankingStarted tasks.length config.algorithm.name (levelName config.verbosity))
    let ledger ← fillLedger entropy config tasks graph
    let priorities ← orFail .ofRanking ledger.toPriorities
    orFail id (requireDistinct priorities)

/-- The outcome of planning and the tasks after it. -/
structure Planned where
  result : Except (Failure PlanningError) Priorities
  tasks : List Task

/-- Write each task's priority into the task. -/
def writePriorities (priorities : Priorities) (tasks : List Task) : List Task :=
  tasks.map fun task => { task with priority := priorities.get? task.id }

/-- Rank the tasks and write each task's priority; on failure no task changes. -/
def planPriorities (entropy : σ) (config : PlanningConfig) (tasks : List Task) :
    Logged Planned := do
  match ← rankTasks entropy config tasks with
  | .ok priorities =>
      pure { result := .ok priorities, tasks := writePriorities priorities tasks }
  | .error failure => pure { result := .error failure, tasks := tasks }

end DagScheduling
