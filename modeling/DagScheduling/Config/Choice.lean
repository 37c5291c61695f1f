/-
Module: DagScheduling.Config.Choice
Purpose: The two choices a planning run makes by name.
Main exports: RankingAlgorithm, SelectionMode, and their `name` and `ofName`
-/
import DagScheduling.Config.Error

namespace DagScheduling

/-- Which ranking produces the priority order. -/
inductive RankingAlgorithm where
  /-- Follow the child with the most children, without any randomness. -/
  | widestPath
  /-- Let a water drop find its way down the graph. -/
  | waterDrop
deriving Repr, DecidableEq

/-- How the water drop picks its next node among the candidates. -/
inductive SelectionMode where
  /-- Draw a node with probability proportional to its score. -/
  | probabilistic
  /-- Take the first node of the highest score. -/
  | greedy
deriving Repr, DecidableEq

/-- The name an algorithm is shown by. -/
def RankingAlgorithm.name : RankingAlgorithm → String
  | .widestPath => "widest_path"
  | .waterDrop => "water_drop"

/-- The algorithm of a name. Each has a second name besides the one it is shown by. -/
def RankingAlgorithm.ofName (text : String) : Except ConfigError RankingAlgorithm :=
  match text with
  | "widest_path" | "critical_path" => .ok .widestPath
  | "water_drop" | "iwd" => .ok .waterDrop
  | other => .error (.unknownAlgorithm other)

/-- The name a selection mode is shown by. -/
def SelectionMode.name : SelectionMode → String
  | .probabilistic => "probabilistic"
  | .greedy => "greedy"

/-- The selection mode of a name. Each has a second name besides the one it is shown by. -/
def SelectionMode.ofName (text : String) : Except ConfigError SelectionMode :=
  match text with
  | "probabilistic" | "roulette" => .ok .probabilistic
  | "greedy" | "best" => .ok .greedy
  | other => .error (.unknownSelectionMode other)

@[simp] theorem RankingAlgorithm.ofName_name (algorithm : RankingAlgorithm) :
    RankingAlgorithm.ofName algorithm.name = .ok algorithm := by
  cases algorithm <;> rfl

@[simp] theorem SelectionMode.ofName_name (mode : SelectionMode) :
    SelectionMode.ofName mode.name = .ok mode := by
  cases mode <;> rfl

end DagScheduling
