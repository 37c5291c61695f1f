/-
Module: DagScheduling.Proofs.Config.Ranges
Purpose: What a ranking may rely on once its constants have passed their checks.
Main exports: Coefficients.requireEach_ok_iff, Coefficients.soilClampMin_le
-/
import DagScheduling.Config.Coefficients
import DagScheduling.Proofs.Except
import DagScheduling.Proofs.FloatOrder

namespace DagScheduling.Coefficients

variable {values : Coefficients}

theorem requireEach_ok_iff {admissible : Float → Bool} {coefficients : List Coefficient} :
    values.requireEach admissible coefficients = .ok () ↔
      ∀ coefficient ∈ coefficients, admissible (values.get coefficient) = true := by
  rw [requireEach]
  cases found : coefficients.find? fun coefficient => !admissible (values.get coefficient) with
  | none => simpa using found
  | some coefficient =>
      have member := List.mem_of_find?_eq_some found
      have refused := List.find?_some found
      simp only [reduceCtorEq, false_iff]
      intro admitted
      simp [admitted coefficient member] at refused

/-- The clamp bounds are in order, and neither is NaN: each is finite. -/
theorem soilClampMin_le (valid : values.validate = .ok ()) :
    values.soilClampMin ≤ values.soilClampMax := by
  obtain ⟨⟨⟩, positive, rest⟩ := exists_of_bind_ok valid
  have number (coefficient : Coefficient) (member : coefficient ∈ Coefficient.strictlyPositive) :
      (values.get coefficient).isNaN = false := by
    have checked := requireEach_ok_iff.mp positive coefficient member
    rw [Bool.and_eq_true] at checked
    exact isNaN_of_isFinite checked.1
  apply le_of_not_lt (number .soilClampMin (by decide)) (number .soilClampMax (by decide))
  intro less
  have swapped : values.soilClampMin > values.soilClampMax := less
  simp only [swapped, if_true] at rest
  split at rest
  · exact nomatch rest
  · exact nomatch rest

end DagScheduling.Coefficients
