import DagScheduling.Decimal.Shortest
import DagScheduling.Decimal.FixedPlaces
import DagScheduling.Text.Quoted
import DagScheduling.Log.Logged
import DagScheduling.Config.Planning
import DagScheduling.Resource
import DagScheduling.Graph.Reachability
import DagScheduling.Champion
import DagScheduling.FloatRange
import DagScheduling.Random.Xoshiro
import DagScheduling.Priority.Ledger
import DagScheduling.Ranking.WidestPath
import DagScheduling.Ranking.WaterDrop
import DagScheduling.Planning.Plan
import DagScheduling.Dispatch.Schedule
import DagScheduling.Simulation.Arguments
import DagScheduling.Simulation.Display
import DagScheduling.Simulation.Requests
import DagScheduling.Random.RandomSource
import DagScheduling.Proofs.Ranking.Exhaustion
import DagScheduling.Proofs.Planning.RootPaths
import DagScheduling.Proofs.Dispatch.Cycles
import DagScheduling.Proofs.Dispatch.Rounds
import DagScheduling.Proofs.Ranking.Descents
import DagScheduling.Proofs.Planning.Records
import DagScheduling.Proofs.Ranking.LeavesFirst
import DagScheduling.Proofs.Renaming.Planning
import DagScheduling.Proofs.Planning.Verbosity
import DagScheduling.Proofs.Ranking.WidestPasses
import DagScheduling.Proofs.Graph.Operations
import DagScheduling.Proofs.Planning.Independence
import DagScheduling.Proofs.Priority.Calls
import DagScheduling.Proofs.Graph.Chronicle
import DagScheduling.Proofs.Planning.Replanning
import DagScheduling.Proofs.Dispatch.Capacities
import DagScheduling.Proofs.Dispatch.Fertility
import DagScheduling.Proofs.Simulation.Dispatch
import DagScheduling.Proofs.Simulation.Planning
import DagScheduling.Proofs.Graph.Marking
import DagScheduling.Proofs.Graph.Removals
