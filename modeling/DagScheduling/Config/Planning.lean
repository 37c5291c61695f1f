/-
Module: DagScheduling.Config.Planning
Purpose: The configuration of a planning run, and its written form.
Main exports: WaterDropParams, PlanningConfig, PlanningConfig.validate, Settings, Settings.toConfig
-/
import DagScheduling.Config.Choice
import DagScheduling.Config.Coefficients
import DagScheduling.Log.Event

namespace DagScheduling

/-- Everything that tunes the water drop ranking. Without a seed the draws of a
probabilistic run start from the caller's own entropy. -/
structure WaterDropParams where
  coefficients : Coefficients := {}
  selection : SelectionMode := .probabilistic
  seed : Option UInt64 := none
deriving Repr

/-- Whether every constant is in its admissible range. -/
def WaterDropParams.validate (params : WaterDropParams) : Except ConfigError Unit :=
  params.coefficients.validate

/-- Configuration of one planning run. -/
structure PlanningConfig where
  algorithm : RankingAlgorithm := .waterDrop
  waterDrop : WaterDropParams := {}
  verbosity : Verbosity := 0
deriving Repr

namespace PlanningConfig

/-- Rank along widest paths, all else at its default. -/
def usingWidestPath : PlanningConfig :=
  { algorithm := .widestPath }

/-- Rank by a water drop of the given parameters, all else at its default. -/
def usingWaterDrop (params : WaterDropParams) : PlanningConfig :=
  { algorithm := .waterDrop, waterDrop := params }

/-- Only the algorithm that will run has its parameters checked. -/
def validate (config : PlanningConfig) : Except ConfigError Unit :=
  match config.algorithm with
  | .widestPath => .ok ()
  | .waterDrop => config.waterDrop.validate

end PlanningConfig

/-- A configuration as a user writes it: the two choices are still names, which
may denote nothing. -/
structure Settings where
  algorithm : String := RankingAlgorithm.waterDrop.name
  selection : String := SelectionMode.probabilistic.name
  seed : Option UInt64 := none
  verbosity : Verbosity := 0
  coefficients : Coefficients := {}
deriving Repr

namespace Settings

/-- The settings that denote a configuration. -/
def ofConfig (config : PlanningConfig) : Settings :=
  let values := config.waterDrop.coefficients
  { algorithm := config.algorithm.name
    selection := config.waterDrop.selection.name
    seed := config.waterDrop.seed
    verbosity := config.verbosity
    coefficients :=
      { velocityGain := values.velocityGain
        velocityOffset := values.velocityOffset
        velocityWeightFactor := values.velocityWeightFactor
        soilGain := values.soilGain
        soilOffset := values.soilOffset
        soilTimeFactor := values.soilTimeFactor
        costExponent := values.costExponent
        learningRate := values.learningRate
        soilClampMin := values.soilClampMin
        soilClampMax := values.soilClampMax
        epsilonSoil := values.epsilonSoil
        epsilonVelocity := values.epsilonVelocity
        weightBase := values.weightBase
        weightFanOutMultiplier := values.weightFanOutMultiplier
        initialVelocity := values.initialVelocity
        initialSoil := values.initialSoil
        costScale := values.costScale } }

/-- The configuration that settings denote. The algorithm's name is read before
the selection mode's. -/
def toConfig (settings : Settings) : Except ConfigError PlanningConfig := do
  let algorithm ← RankingAlgorithm.ofName settings.algorithm
  let selection ← SelectionMode.ofName settings.selection
  let values := settings.coefficients
  pure
    { algorithm := algorithm
      waterDrop :=
        { coefficients :=
            { velocityGain := values.velocityGain
              velocityOffset := values.velocityOffset
              velocityWeightFactor := values.velocityWeightFactor
              soilGain := values.soilGain
              soilOffset := values.soilOffset
              soilTimeFactor := values.soilTimeFactor
              costExponent := values.costExponent
              learningRate := values.learningRate
              soilClampMin := values.soilClampMin
              soilClampMax := values.soilClampMax
              epsilonSoil := values.epsilonSoil
              epsilonVelocity := values.epsilonVelocity
              weightBase := values.weightBase
              weightFanOutMultiplier := values.weightFanOutMultiplier
              initialVelocity := values.initialVelocity
              initialSoil := values.initialSoil
              costScale := values.costScale }
          selection := selection
          seed := settings.seed }
      verbosity := settings.verbosity }

@[simp] theorem toConfig_ofConfig (config : PlanningConfig) :
    (ofConfig config).toConfig = .ok config := by
  simp [toConfig, ofConfig, bind, Except.bind, pure, Except.pure]

end Settings

end DagScheduling
