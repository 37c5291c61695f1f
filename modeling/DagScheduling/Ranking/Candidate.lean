/-
Module: DagScheduling.Ranking.Candidate
Purpose: Scored candidates for the next step of a drop, and the two ways to pick one.
Main exports: Candidate, totalScore, shares, greediest, spin
-/
import DagScheduling.Champion
import DagScheduling.Graph.Error

namespace DagScheduling

/-- A node that the drop may step to, with its score or its share of the scores. -/
structure Candidate where
  node : NodeId
  score : Float
deriving Repr

/-- Sum of the scores from left to right. -/
def totalScore (candidates : List Candidate) : Float :=
  candidates.foldl (fun total candidate => total + candidate.score) 0.0

/-- Each score divided by their sum. -/
def shares (candidates : List Candidate) : List Candidate :=
  let total := totalScore candidates
  candidates.map fun candidate => { candidate with score := candidate.score / total }

/-- The first candidate of the highest score. A score that is not a number
beats none and is beaten by none. -/
def greediest (first : Candidate) (others : List Candidate) : Candidate :=
  champion (fun challenger incumbent => challenger.score > incumbent.score) first others

/-- The first candidate at which the running sum of shares reaches the draw,
and the last one if rounding keeps the sum below it. -/
def spin (draw total cumulative : Float) (candidate : Candidate) : List Candidate → Candidate
  | [] => candidate
  | next :: rest =>
      let cumulative := cumulative + candidate.score / total
      if draw ≤ cumulative then candidate
      else spin draw total cumulative next rest

end DagScheduling
