/-
Module: DagScheduling.Decimal.Positional
Purpose: Writing `coefficient * 10 ^ exponent` with a decimal point and no exponent mark.
Main exports: digits, pointed, positional
-/

namespace DagScheduling.Decimal

/-- Decimal digits of a natural number, most significant first. -/
def digits (value : Nat) : List Char :=
  Nat.toDigits 10 value

/-- Write `value / 10 ^ places`: pad to at least one digit before the point. -/
def pointed (value places : Nat) : List Char :=
  let written := digits value
  let padded := List.replicate (places + 1 - written.length) '0' ++ written
  let whole := padded.length - places
  if places == 0 then padded else padded.take whole ++ '.' :: padded.drop whole

/-- Drop the trailing zeros of a coefficient, raising its exponent. -/
def trim (coefficient : Nat) (exponent : Int) : Nat × Int :=
  if _h : coefficient ≠ 0 ∧ coefficient % 10 = 0 then
    trim (coefficient / 10) (exponent + 1)
  else
    (coefficient, exponent)
termination_by coefficient
decreasing_by omega

/-- Write `coefficient * 10 ^ exponent` with no trailing zero after the point
and no point after a whole number. -/
def positional (coefficient : Nat) (exponent : Int) : List Char :=
  let (coefficient, exponent) := trim coefficient exponent
  if 0 ≤ exponent then
    digits (coefficient * Nat.pow 10 exponent.toNat)
  else
    pointed coefficient (-exponent).toNat

end DagScheduling.Decimal
