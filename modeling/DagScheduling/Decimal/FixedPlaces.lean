/-
Module: DagScheduling.Decimal.FixedPlaces
Purpose: A double written with a given number of decimal places.
Main exports: roundHalfEven, fixedPlaces
-/
import DagScheduling.Decimal.Binary
import DagScheduling.Decimal.Positional

namespace DagScheduling.Decimal

/-- Round a fraction to the nearest whole number, an exact half to the even one. -/
def roundHalfEven (value : Ratio) : Nat :=
  let below := value.num / value.den
  let rest := 2 * (value.num % value.den)
  if rest < value.den then below
  else if value.den < rest then below + 1
  else if below % 2 == 0 then below
  else below + 1

/-- Text of a double with `places` decimals of its exact value. The sign stays
even where every digit written is zero. -/
def fixedPlaces (places : Nat) (value : Float) : String :=
  match Binary.ofFloat value with
  | .notANumber => "NaN"
  | .infinite negative => if negative then "-inf" else "inf"
  | .finite negative mantissa exponent =>
      let exact := Ratio.ofScaled mantissa exponent
      let written :=
        pointed (roundHalfEven { exact with num := exact.num * Nat.pow 10 places }) places
      String.ofList (if negative then '-' :: written else written)

end DagScheduling.Decimal
