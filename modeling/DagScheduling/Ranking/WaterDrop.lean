/-
Module: DagScheduling.Ranking.WaterDrop
Purpose: The ranking that lets a water drop find its way down the graph.
Main exports: WaterDrop, Flow, Riverbed, Riverbed.candidateScores,
  Riverbed.candidateDistribution, Riverbed.rankWithin, Riverbed.rank
-/
import DagScheduling.Config.Planning
import DagScheduling.FloatRange
import DagScheduling.Random.WordSource
import DagScheduling.Ranking.Candidate
import DagScheduling.Ranking.Course

namespace DagScheduling

/-!
A drop starts at the root and steps to a child chosen by its score. Each
crossing speeds it up and erodes the edge, and the child it lands on is ranked
unless it has its priority already. On a leaf the leaf is deleted and the drop
goes back to the root. The ranking is over once the root has no children.
Edge weights play the part of soil: the lower the weight, the more attractive
the edge.
-/

/-- The travelling drop. Its soil is reported, and no choice depends on it. -/
structure WaterDrop where
  current : NodeId := root
  velocity : Float
  soil : Float
deriving Repr

/-- The state of a water drop ranking: graph and ledger, the drop, and the
source its draws come from. -/
structure Flow (σ : Type) extends Standing where
  drop : WaterDrop
  source : σ

/-- What stays fixed during a water drop ranking. -/
structure Riverbed where
  params : WaterDropParams := {}
  /-- Cost of each node's task, from the root on; the root's entry is never read
  where no edge leads to it. -/
  costs : Array Float
  verbosity : Verbosity := 0

/-- What a crossing does to its edge and to the drop. -/
structure Crossing where
  before : Float
  after : Float
  velocity : Float
  soil : Float
deriving Repr

/-- The least weight among sibling edges; infinite where there are none. -/
def leastWeight (edges : List Edge) : Float :=
  edges.foldl (fun least edge => minimum least edge.weight) (1.0 / 0.0)

namespace Riverbed

/-- Cost of a node's task in units of the cost scale. -/
def scaledCost (bed : Riverbed) (node : NodeId) : Except Breach Float :=
  match bed.costs[node]? with
  | some cost => .ok (cost / bed.params.coefficients.costScale)
  | none => .error (.missingCost node)

/-- Score of every child of a node, oldest edge first: the inverse of the
weight divided by a power of the cost. Where a sibling has a negative weight
all are raised by the least one, so that none stays below zero. -/
def candidateScores (bed : Riverbed) (graph : Graph) (node : NodeId) :
    Except Breach (List Candidate) :=
  let edges := graph.edgesOf node
  let least := leastWeight edges
  edges.mapM fun edge => do
    let erosion := if least < 0.0 then edge.weight - least else edge.weight
    let desirability := 1.0 / (bed.params.coefficients.epsilonSoil + erosion)
    let cost ← bed.scaledCost edge.dest
    pure
      { node := edge.dest
        score := desirability / cost.pow bed.params.coefficients.costExponent }

/-- Share of every child of a node in the sum of their scores. -/
def candidateDistribution (bed : Riverbed) (graph : Graph) (node : NodeId) :
    Except Breach (List Candidate) :=
  (bed.candidateScores graph node).map shares

/-- Pick the next node. A greedy choice draws nothing; the other draws once,
however many candidates there are. -/
def select {σ : Type} [WordSource σ] (bed : Riverbed) (first : Candidate)
    (others : List Candidate) (source : σ) : Logged (NodeId × σ) :=
  match bed.params.selection with
  | .greedy => pure ((greediest first others).node, source)
  | .probabilistic => do
      let total := totalScore (first :: others)
      let (draw, source) := WordSource.share source
      note bed.verbosity (.drawn draw)
      pure ((spin draw total 0.0 first others).node, source)

/-- What the crossing from the drop's place to `next` does. -/
def crossing (bed : Riverbed) (graph : Graph) (drop : WaterDrop) (next : NodeId) :
    Except Breach Crossing := do
  let values := bed.params.coefficients
  let weight := graph.weight drop.current next
  let velocity := drop.velocity +
    values.velocityGain / (values.velocityOffset + values.velocityWeightFactor * weight * weight)
  let cost ← bed.scaledCost next
  let time := cost / maximum velocity values.epsilonVelocity
  let wanted := values.soilGain / (values.soilOffset + values.soilTimeFactor * time * time)
  match clamp? values.soilClampMin values.soilClampMax wanted with
  | none => throw (.unorderedBounds values.soilClampMin values.soilClampMax)
  | some taken =>
      pure
        { before := weight
          after := (1.0 - values.learningRate) * weight - values.learningRate * taken
          velocity := velocity
          soil := drop.soil + taken }

/-- Move the drop to `next` and erode the edge it crosses. -/
def travel {σ : Type} (bed : Riverbed) (flow : Flow σ) (next : NodeId) :
    Course (Flow σ) (Flow σ) := do
  let source := flow.drop.current
  let effect ← orBreach flow (bed.crossing flow.graph flow.drop next)
  let graph ← orStop flow ((flow.graph.setWeight source next effect.after).mapError .graph)
  note bed.verbosity
    (.edgeCrossed source next effect.before effect.after effect.velocity effect.soil)
  pure
    { flow with
      graph := graph
      drop := { current := next, velocity := effect.velocity, soil := effect.soil } }

/-- Rank the node that the drop has just reached. -/
def rankReached {σ : Type} (bed : Riverbed) (flow : Flow σ) : Course (Flow σ) (Flow σ) := do
  let node := flow.drop.current
  let (ledger, issued) ← orStop flow (flow.ledger.assign node)
  match issued with
  | some priority => note bed.verbosity (.priorityAssigned node priority)
  | none => note bed.verbosity (.alreadyRanked node)
  pure { flow with ledger := ledger }

/-- One step of the drop: pick a candidate, cross over to it and rank it. -/
def step {σ : Type} [WordSource σ] (bed : Riverbed) (first : Candidate)
    (others : List Candidate) (flow : Flow σ) : Course (Flow σ) (Flow σ) := do
  noteAll bed.verbosity <| (first :: others).map fun candidate =>
    .candidateScored candidate.node flow.drop.current candidate.score
  let (next, source) ← bed.select first others flow.source
  let flow ← bed.travel { flow with source := source } next
  bed.rankReached flow

/-- Steps from the drop's place down to a leaf, fewer than `fuel` of them. -/
def descend {σ : Type} [WordSource σ] (bed : Riverbed) : Nat → Flow σ → Course (Flow σ) (Flow σ)
  | 0, flow => throw { failure := .broken .endlessWalk, state := flow }
  | fuel + 1, flow => do
      match ← orBreach flow (bed.candidateScores flow.graph flow.drop.current) with
      | [] => pure flow
      | first :: others =>
          let flow ← bed.step first others flow
          descend bed fuel flow

/-- Rank the leaf under the drop if it has no priority, delete it, and put the
drop back to the root. -/
def retireLeaf {σ : Type} (bed : Riverbed) (flow : Flow σ) : Course (Flow σ) (Flow σ) := do
  let leaf := flow.drop.current
  if flow.graph.isRemoved leaf then
    throw { failure := .reported (.duplicatePriorityAssignment leaf), state := flow }
  let (ledger, issued) ← orStop flow (flow.ledger.assign leaf)
  let flow := { flow with ledger := ledger }
  match issued with
  | some priority => note bed.verbosity (.priorityAssigned leaf priority)
  | none => pure ()
  let graph ← orStop flow ((flow.graph.removeNode leaf).mapError .graph)
  note bed.verbosity (.taskRemoved leaf)
  pure { flow with graph := graph, drop := { flow.drop with current := root } }

/-- Up to `fuel` descents of fewer than `steps` steps, each but the last followed
by the end of its leaf. A descent that stays at the root is the last. -/
def descents {σ : Type} [WordSource σ] (bed : Riverbed) (steps : Nat) :
    Nat → Flow σ → Course (Flow σ) (Flow σ)
  | 0, flow => throw { failure := .broken .endlessWalk, state := flow }
  | fuel + 1, flow => do
      let flow ← bed.descend steps flow
      if flow.drop.current = root then
        pure flow
      else
        let flow ← bed.retireLeaf flow
        descents bed steps fuel flow

/-- Weigh the edges by fan-out and let the drop run until every node below the
root is ranked and deleted. The cost table has to have an entry for each node.

Where the drop can go in circles no number of steps is known beforehand to be
enough. `steps` bounds the steps of a descent and the number of descents; a run
that has not ended by then breaks off as an endless walk. -/
def rankWithin {σ : Type} [WordSource σ] (bed : Riverbed) (steps : Nat) (graph : Graph)
    (ledger : Ledger) (source : σ) : Logged (Except (Stopped (Flow σ)) (Flow σ)) :=
  let values := bed.params.coefficients
  let start : Flow σ :=
    { graph := graph
      ledger := ledger
      drop := { velocity := values.initialVelocity, soil := values.initialSoil }
      source := source }
  if bed.costs.size = graph.nodeCount then
    (bed.descents steps steps
      { start with
        graph := graph.weighByFanOut values.weightBase values.weightFanOutMultiplier }).run
  else
    pure (.error
      { failure := .reported (.costTableMismatch graph.nodeCount bed.costs.size), state := start })

/-- The ranking within as many steps as are enough wherever the drop cannot go in
circles. -/
def rank {σ : Type} [WordSource σ] (bed : Riverbed) (graph : Graph) (ledger : Ledger)
    (source : σ) : Logged (Except (Stopped (Flow σ)) (Flow σ)) :=
  bed.rankWithin (graph.nodeCount + 1) graph ledger source

end Riverbed

end DagScheduling
