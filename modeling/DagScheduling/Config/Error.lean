/-
Module: DagScheduling.Config.Error
Purpose: What can be wrong with a configuration.
Main exports: ConfigError, ConfigError.message
-/
import DagScheduling.Decimal.Shortest

namespace DagScheduling

/-- What can be wrong with a configuration: a name that denotes nothing, or a
constant outside its range. -/
inductive ConfigError where
  | unknownAlgorithm (text : String)
  | unknownSelectionMode (text : String)
  | invalidParameter (name : String) (value : Float)
deriving Repr

/-- The wording of a configuration error. -/
def ConfigError.message : ConfigError → String
  | .unknownAlgorithm text => s!"Unknown ranking algorithm: {text}"
  | .unknownSelectionMode text => s!"Unknown selection mode: {text}"
  | .invalidParameter name value => s!"Invalid value for {name}: " ++ Decimal.shortest value

end DagScheduling
