/-
Module: DagScheduling.Config.Coefficients
Purpose: The real constants of the water drop ranking, their names and admissible ranges.
Main exports: Coefficient, Coefficients, Coefficients.get, Coefficients.set, Coefficients.validate
-/
import DagScheduling.Config.Error

namespace DagScheduling

/-- The constants of the water drop ranking. -/
inductive Coefficient where
  | velocityGain
  | velocityOffset
  | velocityWeightFactor
  | soilGain
  | soilOffset
  | soilTimeFactor
  | costExponent
  | learningRate
  | soilClampMin
  | soilClampMax
  | epsilonSoil
  | epsilonVelocity
  | weightBase
  | weightFanOutMultiplier
  | initialVelocity
  | initialSoil
  | costScale
deriving Repr, DecidableEq

namespace Coefficient

/-- The name a constant goes by in settings and messages. -/
def label : Coefficient → String
  | velocityGain => "av"
  | velocityOffset => "bv"
  | velocityWeightFactor => "cv"
  | soilGain => "a_s"
  | soilOffset => "b_s"
  | soilTimeFactor => "c_s"
  | costExponent => "tau"
  | learningRate => "learning_rate"
  | soilClampMin => "soil_clamp_min"
  | soilClampMax => "soil_clamp_max"
  | epsilonSoil => "epsilon_soil"
  | epsilonVelocity => "epsilon_velocity"
  | weightBase => "weight_base"
  | weightFanOutMultiplier => "weight_fanout_multiplier"
  | initialVelocity => "initial_velocity"
  | initialSoil => "initial_soil"
  | costScale => "cost_scale"

/-- Every constant once. -/
def all : List Coefficient :=
  [velocityGain, velocityOffset, velocityWeightFactor, soilGain, soilOffset, soilTimeFactor,
    costExponent, learningRate, soilClampMin, soilClampMax, epsilonSoil, epsilonVelocity,
    weightBase, weightFanOutMultiplier, initialVelocity, initialSoil, costScale]

theorem mem_all (coefficient : Coefficient) : coefficient ∈ all := by
  cases coefficient <;> decide

/-- The constants that have to be finite and above zero, in the order they are checked. -/
def strictlyPositive : List Coefficient :=
  [velocityGain, velocityOffset, velocityWeightFactor, soilGain, soilOffset, soilTimeFactor,
    costExponent, soilClampMin, soilClampMax, epsilonSoil, epsilonVelocity, initialVelocity,
    costScale]

/-- The constants that only have to be finite, in the order they are checked. -/
def merelyFinite : List Coefficient :=
  [weightBase, weightFanOutMultiplier, initialSoil]

end Coefficient

/-- A value for each constant. The defaults are those a ranking uses when its
caller states none. -/
structure Coefficients where
  /-- Numerator of the gain in velocity on an edge. -/
  velocityGain : Float := 0.1
  /-- Constant term under the gain in velocity. -/
  velocityOffset : Float := 1.5
  /-- Factor of the squared weight under the gain in velocity. -/
  velocityWeightFactor : Float := 80.0
  /-- Numerator of the soil taken from an edge. -/
  soilGain : Float := 1.0
  /-- Constant term under the soil taken. -/
  soilOffset : Float := 0.1
  /-- Factor of the squared travel time under the soil taken. -/
  soilTimeFactor : Float := 1.0
  /-- Exponent of a task's cost in its score. -/
  costExponent : Float := 0.9
  /-- Share of an edge's weight that one crossing replaces, in (0, 1). -/
  learningRate : Float := 0.5
  /-- Least soil that one crossing takes. -/
  soilClampMin : Float := 10.0
  /-- Most soil that one crossing takes. -/
  soilClampMax : Float := 90.0
  /-- Keeps a desirability finite where the erosion is zero. -/
  epsilonSoil : Float := 0.01
  /-- Least velocity that counts for the travel time. -/
  epsilonVelocity : Float := 0.0001
  /-- Weight of an edge before the fan-out of its end is added. -/
  weightBase : Float := 100.0
  /-- Weight added for each child of an edge's end. -/
  weightFanOutMultiplier : Float := 20.0
  /-- Velocity of the drop when it starts. -/
  initialVelocity : Float := 100.0
  /-- Soil the drop carries when it starts. -/
  initialSoil : Float := 0.0
  /-- Unit of the costs: each is divided by it before use. -/
  costScale : Float := 1000.0
deriving Repr

namespace Coefficients

/-- The value of a constant. -/
def get (values : Coefficients) : Coefficient → Float
  | .velocityGain => values.velocityGain
  | .velocityOffset => values.velocityOffset
  | .velocityWeightFactor => values.velocityWeightFactor
  | .soilGain => values.soilGain
  | .soilOffset => values.soilOffset
  | .soilTimeFactor => values.soilTimeFactor
  | .costExponent => values.costExponent
  | .learningRate => values.learningRate
  | .soilClampMin => values.soilClampMin
  | .soilClampMax => values.soilClampMax
  | .epsilonSoil => values.epsilonSoil
  | .epsilonVelocity => values.epsilonVelocity
  | .weightBase => values.weightBase
  | .weightFanOutMultiplier => values.weightFanOutMultiplier
  | .initialVelocity => values.initialVelocity
  | .initialSoil => values.initialSoil
  | .costScale => values.costScale

/-- Give one constant another value. -/
def set (values : Coefficients) (coefficient : Coefficient) (value : Float) : Coefficients :=
  match coefficient with
  | .velocityGain => { values with velocityGain := value }
  | .velocityOffset => { values with velocityOffset := value }
  | .velocityWeightFactor => { values with velocityWeightFactor := value }
  | .soilGain => { values with soilGain := value }
  | .soilOffset => { values with soilOffset := value }
  | .soilTimeFactor => { values with soilTimeFactor := value }
  | .costExponent => { values with costExponent := value }
  | .learningRate => { values with learningRate := value }
  | .soilClampMin => { values with soilClampMin := value }
  | .soilClampMax => { values with soilClampMax := value }
  | .epsilonSoil => { values with epsilonSoil := value }
  | .epsilonVelocity => { values with epsilonVelocity := value }
  | .weightBase => { values with weightBase := value }
  | .weightFanOutMultiplier => { values with weightFanOutMultiplier := value }
  | .initialVelocity => { values with initialVelocity := value }
  | .initialSoil => { values with initialSoil := value }
  | .costScale => { values with costScale := value }

@[simp] theorem get_set_self (values : Coefficients) (coefficient : Coefficient) (value : Float) :
    (values.set coefficient value).get coefficient = value := by
  cases coefficient <;> rfl

theorem get_set_of_ne (values : Coefficients) {changed read : Coefficient} (value : Float)
    (different : read ≠ changed) :
    (values.set changed value).get read = values.get read := by
  cases changed <;> cases read <;> first | rfl | exact absurd rfl different

/-- The error that names a constant and its present value. -/
def fault (values : Coefficients) (coefficient : Coefficient) : ConfigError :=
  .invalidParameter coefficient.label (values.get coefficient)

/-- Refuse the first constant of a list whose value is not admissible. -/
def requireEach (values : Coefficients) (admissible : Float → Bool)
    (coefficients : List Coefficient) : Except ConfigError Unit :=
  match coefficients.find? fun coefficient => !admissible (values.get coefficient) with
  | some coefficient => .error (values.fault coefficient)
  | none => .ok ()

/-- Check every constant against its range: first those that have to be
positive, then the learning rate, then the order of the two clamp bounds, then
those that only have to be finite. -/
def validate (values : Coefficients) : Except ConfigError Unit := do
  values.requireEach (fun value => value.isFinite && !(value ≤ 0)) Coefficient.strictlyPositive
  if !(values.learningRate > 0 && values.learningRate < 1) then
    throw (values.fault .learningRate)
  if values.soilClampMin > values.soilClampMax then
    throw (values.fault .soilClampMin)
  values.requireEach Float.isFinite Coefficient.merelyFinite

end Coefficients

end DagScheduling
