/-
Module: DagScheduling.FloatRange
Purpose: Least, greatest and clamped real numbers in the presence of NaN.
Main exports: minimum, maximum, clamp?
-/

namespace DagScheduling

/-- The lesser of two numbers; the other one where one is NaN. -/
def minimum (first second : Float) : Float :=
  if first.isNaN then second
  else if second < first then second
  else first

/-- The greater of two numbers; the other one where one is NaN. -/
def maximum (first second : Float) : Float :=
  if first.isNaN then second
  else if first < second then second
  else first

/-- The number of the range nearest to `value`. A NaN stays NaN, and bounds
that are out of order, or incomparable, have no range between them. -/
def clamp? (lower upper value : Float) : Option Float :=
  if lower ≤ upper then
    if value < lower then some lower
    else if upper < value then some upper
    else some value
  else none

end DagScheduling
