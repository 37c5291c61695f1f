/-
Module: DagScheduling.Decimal.Shortest
Purpose: The decimal with the fewest digits that reads back as the same double.
Main exports: Interval, nearestOnGrid?, shortestDecimal, shortest
-/
import DagScheduling.Decimal.Binary
import DagScheduling.Decimal.Positional

namespace DagScheduling.Decimal

/-!
A decimal reads back as a double exactly when it lies between the midpoints to
the two neighbouring doubles; the midpoints themselves belong to the double
with the even mantissa. For one digit, two digits and so on the two points of
that decimal grid which enclose the value are tried: the first grid with a
point inside the interval gives the answer, of two points inside the nearer
one, and the upper one when both are equally near. Seventeen digits always
suffice for a double.
-/

/-- The reals that read back as one double, as numerators over a common
denominator. -/
structure Interval where
  lower : Nat
  value : Nat
  upper : Nat
  den : Nat
  closed : Bool
deriving Repr, DecidableEq

/-- The interval of `mantissa * 2 ^ exponent`. Just above a power of two the
gap below is half as wide as the gap above. -/
def Interval.around (mantissa : Nat) (exponent : Int) : Interval :=
  let narrow := mantissa == implicitBit && exponent != -1074
  let unit := Ratio.ofScaled 1 (exponent - 2)
  { lower := (4 * mantissa - if narrow then 1 else 2) * unit.num
    value := 4 * mantissa * unit.num
    upper := (4 * mantissa + 2) * unit.num
    den := unit.den
    closed := mantissa % 2 == 0 }

/-- The same interval with every number divided by `10 ^ exponent`. -/
def Interval.inUnits (interval : Interval) (exponent : Int) : Interval :=
  if 0 ≤ exponent then
    { interval with den := interval.den * Nat.pow 10 exponent.toNat }
  else
    let factor := Nat.pow 10 (-exponent).toNat
    { interval with
      lower := interval.lower * factor
      value := interval.value * factor
      upper := interval.upper * factor }

/-- Whether a whole number lies in the interval. -/
def Interval.holds (interval : Interval) (point : Nat) : Bool :=
  let scaled := point * interval.den
  if interval.closed then
    interval.lower ≤ scaled && scaled ≤ interval.upper
  else
    interval.lower < scaled && scaled < interval.upper

/-- The nearest whole number in the interval among the two that enclose its
value; the upper one if they are equally near. -/
def nearestOnGrid? (interval : Interval) : Option Nat :=
  let below := interval.value / interval.den
  let above := below + 1
  match interval.holds below, interval.holds above with
  | true, true =>
      if interval.value - below * interval.den < above * interval.den - interval.value then
        some below
      else
        some above
  | true, false => some below
  | false, true => some above
  | false, false => none

/-- The least exponent `e` with `value < 10 ^ e`, for a positive value. -/
def magnitude (value : Ratio) : Int :=
  if value.den ≤ value.num then
    (digits (value.num / value.den)).length
  else
    -- the number of zeros between the point and the first digit
    let zeros := (List.range 400).takeWhile fun n => value.num * Nat.pow 10 (n + 1) < value.den
    0 - (zeros.length : Int)

/-- Coefficient and exponent of the shortest decimal of `mantissa * 2 ^ exponent`. -/
def shortestDecimal (mantissa : Nat) (exponent : Int) : Nat × Int :=
  let interval := Interval.around mantissa exponent
  let top := magnitude (Ratio.ofScaled mantissa exponent)
  let found := (List.range 17).findSome? fun (n : Nat) =>
    let place := top - (n + 1 : Nat)
    (nearestOnGrid? (interval.inUnits place)).map fun point => (point, place)
  found.getD (mantissa, exponent)

/-- Shortest text of a double: `NaN` without a sign, `inf` and `-inf`, the sign
of a negative zero kept, never an exponent mark. -/
def shortest (value : Float) : String :=
  match Binary.ofFloat value with
  | .notANumber => "NaN"
  | .infinite negative => if negative then "-inf" else "inf"
  | .finite negative mantissa exponent =>
      let magnitude :=
        if mantissa == 0 then ['0']
        else
          let (coefficient, place) := shortestDecimal mantissa exponent
          positional coefficient place
      String.ofList (if negative then '-' :: magnitude else magnitude)

end DagScheduling.Decimal
