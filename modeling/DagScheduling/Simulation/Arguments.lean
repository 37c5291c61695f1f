/-
Module: DagScheduling.Simulation.Arguments
Purpose: Settings of which any part may be left out.
Main exports: Arguments, Arguments.toSettings
-/
import DagScheduling.Config.Planning

namespace DagScheduling

/-- What a caller states of the settings; the rest takes its default. -/
structure Arguments where
  algorithm : Option String := none
  selection : Option String := none
  seed : Option UInt64 := none
  verbosity : Option Verbosity := none
  coefficient : Coefficient → Option Float := fun _ => none

namespace Arguments

/-- The values with one of the constants as it is stated, if it is. -/
def overrideOne (stated : Coefficient → Option Float) (values : Coefficients)
    (coefficient : Coefficient) : Coefficients :=
  match stated coefficient with
  | some value => values.set coefficient value
  | none => values

/-- The stated constants in place of the given ones. -/
def override (stated : Coefficient → Option Float) (values : Coefficients) : Coefficients :=
  Coefficient.all.foldl (overrideOne stated) values

/-- The settings that the arguments state. A seed left out stays out. -/
def toSettings (arguments : Arguments) : Settings :=
  let defaults : Settings := Settings.ofConfig {}
  { algorithm := arguments.algorithm.getD defaults.algorithm
    selection := arguments.selection.getD defaults.selection
    seed := arguments.seed
    verbosity := arguments.verbosity.getD defaults.verbosity
    coefficients := override arguments.coefficient defaults.coefficients }

end Arguments

end DagScheduling
