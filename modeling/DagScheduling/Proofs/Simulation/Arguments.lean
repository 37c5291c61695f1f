/-
Module: DagScheduling.Proofs.Simulation.Arguments
Purpose: What configuration arguments denote: part by part what is stated, else the default. They
  denote none if the algorithm's name, or else the selection mode's, is unknown.
Main exports: Arguments.get_override, Arguments.Denotes, Arguments.Refused,
  Arguments.toConfig_of_denotes, Arguments.toConfig_of_refused, Arguments.denotes_iff_not_refused
-/
import DagScheduling.Proofs.Except
import DagScheduling.Simulation.Arguments

namespace DagScheduling

/-- Constants with the same values are the same. -/
theorem Coefficients.ext_get {first second : Coefficients}
    (same : ∀ coefficient, first.get coefficient = second.get coefficient) : first = second := by
  cases first
  cases second
  rw [Coefficients.mk.injEq]
  exact ⟨same .velocityGain, same .velocityOffset, same .velocityWeightFactor, same .soilGain,
    same .soilOffset, same .soilTimeFactor, same .costExponent, same .learningRate,
    same .soilClampMin, same .soilClampMax, same .epsilonSoil, same .epsilonVelocity,
    same .weightBase, same .weightFanOutMultiplier, same .initialVelocity, same .initialSoil,
    same .costScale⟩

namespace Arguments

variable {arguments : Arguments} {config : PlanningConfig} {cause : ConfigError}
  {stated : Coefficient → Option Float} {values : Coefficients}

/-! ### Constants -/

theorem get_overrideOne_self (coefficient : Coefficient) :
    (overrideOne stated values coefficient).get coefficient =
      (stated coefficient).getD (values.get coefficient) := by
  rw [overrideOne]
  cases stated coefficient with
  | none => rfl
  | some value => exact values.get_set_self coefficient value

theorem get_overrideOne_of_ne {changed read : Coefficient} (different : read ≠ changed) :
    (overrideOne stated values changed).get read = values.get read := by
  rw [overrideOne]
  cases stated changed with
  | none => rfl
  | some value => exact values.get_set_of_ne value different

/-- Constants that are gone through, be it more than once, are as they are stated, and the others
as they were. -/
theorem get_foldl_overrideOne (coefficients : List Coefficient) (read : Coefficient) :
    (coefficients.foldl (overrideOne stated) values).get read =
      if read ∈ coefficients then (stated read).getD (values.get read) else values.get read := by
  induction coefficients generalizing values with
  | nil => rfl
  | cons changed rest inductionHypothesis =>
      rw [List.foldl_cons, inductionHypothesis]
      by_cases here : read = changed
      · subst here
        rw [get_overrideOne_self, if_pos List.mem_cons_self]
        cases stated read <;> simp
      · rw [get_overrideOne_of_ne here]
        simp [here]

theorem get_override (stated : Coefficient → Option Float) (values : Coefficients)
    (coefficient : Coefficient) :
    (override stated values).get coefficient =
      (stated coefficient).getD (values.get coefficient) := by
  rw [override, get_foldl_overrideOne, if_pos (Coefficient.mem_all coefficient)]

/-! ### Choices -/

/-- The algorithm that is stated by its name, or else the default. -/
def statedAlgorithm (arguments : Arguments) : Except ConfigError RankingAlgorithm :=
  match arguments.algorithm with
  | some text => RankingAlgorithm.ofName text
  | none => .ok ({} : PlanningConfig).algorithm

/-- The selection mode that is stated by its name, or else the default. -/
def statedSelection (arguments : Arguments) : Except ConfigError SelectionMode :=
  match arguments.selection with
  | some text => SelectionMode.ofName text
  | none => .ok ({} : PlanningConfig).waterDrop.selection

theorem ofName_algorithm (arguments : Arguments) :
    RankingAlgorithm.ofName arguments.toSettings.algorithm = arguments.statedAlgorithm := by
  rw [toSettings, statedAlgorithm]
  cases arguments.algorithm with
  | none => exact RankingAlgorithm.ofName_name ({} : PlanningConfig).algorithm
  | some text => rfl

theorem ofName_selection (arguments : Arguments) :
    SelectionMode.ofName arguments.toSettings.selection = arguments.statedSelection := by
  rw [toSettings, statedSelection]
  cases arguments.selection with
  | none => exact SelectionMode.ofName_name ({} : PlanningConfig).waterDrop.selection
  | some text => rfl

/-! ### The configuration -/

/-- Every part of the configuration is as stated, or else as it is by default. -/
structure Denotes (arguments : Arguments) (config : PlanningConfig) : Prop where
  algorithm : arguments.statedAlgorithm = .ok config.algorithm
  selection : arguments.statedSelection = .ok config.waterDrop.selection
  seed : config.waterDrop.seed = arguments.seed.or ({} : PlanningConfig).waterDrop.seed
  verbosity : config.verbosity = arguments.verbosity.getD ({} : PlanningConfig).verbosity
  coefficients : ∀ coefficient, config.waterDrop.coefficients.get coefficient =
    (arguments.coefficient coefficient).getD
      (({} : PlanningConfig).waterDrop.coefficients.get coefficient)

/-- The name of the algorithm is unknown or, if that one is known, the name of
the selection mode. -/
inductive Refused (arguments : Arguments) : ConfigError → Prop
  | algorithm {cause : ConfigError} (unknown : arguments.statedAlgorithm = .error cause) :
      Refused arguments cause
  | selection {algorithm : RankingAlgorithm} {cause : ConfigError}
      (known : arguments.statedAlgorithm = .ok algorithm)
      (unknown : arguments.statedSelection = .error cause) : Refused arguments cause

theorem toConfig_of_denotes (denotes : arguments.Denotes config) :
    arguments.toSettings.toConfig = .ok config := by
  obtain ⟨algorithm, ⟨coefficients, selection, seed⟩, verbosity⟩ := config
  have sameCoefficients : arguments.toSettings.coefficients = coefficients := by
    apply Coefficients.ext_get
    intro coefficient
    rw [denotes.coefficients coefficient]
    exact get_override _ _ _
  have sameSeed : arguments.toSettings.seed = seed := (denotes.seed.trans Option.or_none).symm
  have sameVerbosity : arguments.toSettings.verbosity = verbosity := denotes.verbosity.symm
  rw [Settings.toConfig, ofName_algorithm, ofName_selection, denotes.algorithm, denotes.selection,
    ok_bind, ok_bind, sameCoefficients, sameSeed, sameVerbosity]
  rfl

theorem toConfig_of_refused (refused : arguments.Refused cause) :
    arguments.toSettings.toConfig = .error cause := by
  rw [Settings.toConfig, ofName_algorithm, ofName_selection]
  cases refused with
  | algorithm unknown => rw [unknown, error_bind]
  | selection known unknown => rw [known, ok_bind, unknown, error_bind]

/-- Arguments denote a configuration unless they are refused. -/
theorem denotes_or_refused (arguments : Arguments) :
    (∃ config, arguments.Denotes config) ∨ ∃ cause, arguments.Refused cause := by
  cases chosen : arguments.statedAlgorithm with
  | error cause => exact Or.inr ⟨cause, .algorithm chosen⟩
  | ok algorithm =>
      cases selected : arguments.statedSelection with
      | error cause => exact Or.inr ⟨cause, .selection chosen selected⟩
      | ok selection =>
          refine Or.inl ⟨{
            algorithm := algorithm
            waterDrop := {
              coefficients := override arguments.coefficient {}
              selection := selection
              seed := arguments.seed }
            verbosity := arguments.verbosity.getD 0 }, ?_⟩
          exact {
            algorithm := chosen
            selection := selected
            seed := Option.or_none.symm
            verbosity := rfl
            coefficients := get_override arguments.coefficient {} }

/-- Arguments denote one configuration, or they are refused. -/
theorem denotes_iff_not_refused (arguments : Arguments) :
    (∃! config, arguments.Denotes config) ↔ ¬ ∃ cause, arguments.Refused cause := by
  constructor
  · rintro ⟨config, denotes, -⟩ ⟨cause, refused⟩
    exact nomatch (toConfig_of_refused refused).symm.trans (toConfig_of_denotes denotes)
  · intro notRefused
    obtain ⟨config, denotes⟩ := arguments.denotes_or_refused.resolve_right notRefused
    refine ⟨config, denotes, ?_⟩
    intro other denotesOther
    cases (toConfig_of_denotes denotesOther).symm.trans (toConfig_of_denotes denotes)
    rfl

end Arguments

end DagScheduling
