/-
Module: DagScheduling.Proofs.FloatOrder
Purpose: The order of floating-point numbers: total but for NaN, which compares with nothing. No
  proof needs another fact about them.
Main exports: isNaN_of_isFinite, not_le_of_isNaN, not_lt_of_isNaN, lt_iff_not_le, le_of_not_lt,
  not_lt_of_le, le_trans_of_numbers, le_total_of_numbers
-/
import Mathlib.Data.Int.Order.Basic
import Mathlib.Data.Prod.Lex
import Mathlib.Order.Defs.LinearOrder

namespace DagScheduling

open Float.Model (UnpackedFloat)

variable {first second third value : Float}

/-! ### Places on a line -/

/-- Where a number stands among all: by sign and kind, then by exponent, then
by mantissa, the last two reversed below zero. The place of NaN means nothing. -/
private def place : UnpackedFloat → Int ×ₗ Int ×ₗ Int
  | .infinity .negative => toLex (-2, toLex (0, 0))
  | .finite .negative mantissa exponent _ => toLex (-1, toLex (-exponent, -(mantissa : Int)))
  | .zero _ | .notANumber => toLex (0, toLex (0, 0))
  | .finite .positive mantissa exponent _ => toLex (1, toLex (exponent, (mantissa : Int)))
  | .infinity .positive => toLex (2, toLex (0, 0))

private theorem compare_cast (m n : Nat) : compare (m : Int) (n : Int) = compare m n := by
  rcases lt_trichotomy m n with less | same | greater
  · rw [compare_lt_iff_lt.mpr less, compare_lt_iff_lt.mpr (Int.ofNat_lt.mpr less)]
  · subst same
    rw [compare_eq_iff_eq.mpr rfl, compare_eq_iff_eq.mpr rfl]
  · rw [compare_gt_iff_gt.mpr greater, compare_gt_iff_gt.mpr (Int.ofNat_lt.mpr greater)]

private theorem compare_neg_neg (e f : Int) : compare (-e) (-f) = compare f e := by
  rcases lt_trichotomy f e with less | same | greater
  · rw [compare_lt_iff_lt.mpr less, compare_lt_iff_lt.mpr (Int.neg_lt_neg less)]
  · subst same
    rw [compare_eq_iff_eq.mpr rfl, compare_eq_iff_eq.mpr rfl]
  · rw [compare_gt_iff_gt.mpr greater, compare_gt_iff_gt.mpr (Int.neg_lt_neg greater)]

/-- Apart from NaN any two numbers compare as their places do. -/
private theorem compare_eq_place {first second : UnpackedFloat}
    (firstNumber : first.isNaN = false) (secondNumber : second.isNaN = false) :
    first.compare second = some (compare (place first) (place second)) := by
  rcases first with (_ | _) | _ | _ | ⟨_ | _, m, e, _⟩ <;>
    rcases second with (_ | _) | _ | _ | ⟨_ | _, n, f, _⟩ <;>
    try first
      | rfl
      | exact absurd firstNumber (by decide)
      | exact absurd secondNumber (by decide)
  -- Two numbers of one sign compare by exponent, then by mantissa.
  · show some ((compare e f).then (compare m n)).swap =
      some ((compare (-e) (-f)).then (compare (-(m : Int)) (-(n : Int))))
    rw [compare_neg_neg, compare_neg_neg, compare_cast, Ordering.swap_then,
      ← Std.OrientedCmp.eq_swap, ← Std.OrientedCmp.eq_swap]
  · show some ((compare e f).then (compare m n)) =
      some ((compare e f).then (compare (m : Int) (n : Int)))
    rw [compare_cast]

private theorem lt_iff_place (firstNumber : first.isNaN = false)
    (secondNumber : second.isNaN = false) :
    first < second ↔ place first.toModel.unpack < place second.toModel.unpack := by
  show first.lt second = true ↔ _
  rw [Float.lt, decide_eq_true_eq]
  show first.toModel.unpack.lt second.toModel.unpack = true ↔ _
  rw [UnpackedFloat.lt, compare_eq_place firstNumber secondNumber, beq_iff_eq, Option.some_inj,
    compare_lt_iff_lt]

private theorem le_iff_place (firstNumber : first.isNaN = false)
    (secondNumber : second.isNaN = false) :
    first ≤ second ↔ place first.toModel.unpack ≤ place second.toModel.unpack := by
  show first.le second = true ↔ _
  rw [Float.le, decide_eq_true_eq]
  show first.toModel.unpack.le second.toModel.unpack = true ↔ _
  rw [UnpackedFloat.le, compare_eq_place firstNumber secondNumber, Option.any_some,
    Ordering.isLE_iff_ne_gt]
  exact compare_le_iff_le

/-! ### The order -/

theorem isNaN_of_isFinite (finite : value.isFinite = true) : value.isNaN = false := by
  have unpackedFinite : value.toModel.unpack.isFinite = true := finite
  show value.toModel.unpack.isNaN = false
  cases unpacked : value.toModel.unpack with
  | notANumber =>
      rw [unpacked] at unpackedFinite
      exact absurd unpackedFinite Bool.false_ne_true
  | infinity sign => rfl
  | zero sign => rfl
  | finite sign mantissa exponent positive => rfl

/-- NaN compares with nothing, itself included. -/
private theorem compare_of_isNaN {first second : UnpackedFloat}
    (nan : first.isNaN = true ∨ second.isNaN = true) : first.compare second = none := by
  cases first with
  | notANumber => rfl
  | _ =>
      cases second with
      | notANumber => rfl
      | _ => rcases nan with nan | nan <;> exact absurd nan Bool.false_ne_true

theorem not_le_of_isNaN (nan : first.isNaN = true ∨ second.isNaN = true) : ¬ first ≤ second := by
  show ¬ first.le second = true
  rw [Float.le, decide_eq_true_eq]
  show ¬ first.toModel.unpack.le second.toModel.unpack = true
  rw [UnpackedFloat.le, compare_of_isNaN nan]
  exact Bool.false_ne_true

theorem not_lt_of_isNaN (nan : first.isNaN = true ∨ second.isNaN = true) : ¬ first < second := by
  show ¬ first.lt second = true
  rw [Float.lt, decide_eq_true_eq]
  show ¬ first.toModel.unpack.lt second.toModel.unpack = true
  rw [UnpackedFloat.lt, compare_of_isNaN nan]
  exact Bool.false_ne_true

/-- Numbers that are not NaN are in order one way or the other. -/
theorem lt_iff_not_le (firstNumber : first.isNaN = false) (secondNumber : second.isNaN = false) :
    first < second ↔ ¬ second ≤ first := by
  rw [lt_iff_place firstNumber secondNumber, le_iff_place secondNumber firstNumber, not_le]

theorem le_of_not_lt (firstNumber : first.isNaN = false) (secondNumber : second.isNaN = false)
    (notLess : ¬ second < first) : first ≤ second := by
  rw [lt_iff_not_le secondNumber firstNumber] at notLess
  exact Decidable.not_not.mp notLess

/-- What is at most another is not greater, which holds of NaN as well. -/
theorem not_lt_of_le (atMost : first ≤ second) : ¬ second < first := by
  by_cases nan : first.isNaN = true ∨ second.isNaN = true
  · exact absurd atMost (not_le_of_isNaN nan)
  · obtain ⟨firstNumber, secondNumber⟩ := not_or.mp nan
    rw [lt_iff_not_le (Bool.eq_false_of_not_eq_true secondNumber)
      (Bool.eq_false_of_not_eq_true firstNumber)]
    exact not_not_intro atMost

theorem le_trans_of_numbers (firstNumber : first.isNaN = false)
    (secondNumber : second.isNaN = false) (thirdNumber : third.isNaN = false)
    (one : first ≤ second) (two : second ≤ third) : first ≤ third := by
  rw [le_iff_place firstNumber secondNumber] at one
  rw [le_iff_place secondNumber thirdNumber] at two
  rw [le_iff_place firstNumber thirdNumber]
  exact le_trans one two

theorem le_total_of_numbers (firstNumber : first.isNaN = false)
    (secondNumber : second.isNaN = false) : first ≤ second ∨ second ≤ first := by
  rw [le_iff_place firstNumber secondNumber, le_iff_place secondNumber firstNumber]
  exact le_total _ _

end DagScheduling
