/-
Module: DagScheduling.Decimal.Binary
Purpose: The exact value that a double-precision word stands for.
Main exports: Binary, Binary.ofFloat, Ratio, Ratio.ofScaled
-/

namespace DagScheduling.Decimal

/-- What a double stands for: no number, an infinity, or a signed multiple
`mantissa * 2 ^ exponent` of a power of two. -/
inductive Binary where
  | notANumber
  | infinite (negative : Bool)
  | finite (negative : Bool) (mantissa : Nat) (exponent : Int)
deriving Repr, DecidableEq

/-- The leading bit of every mantissa but the subnormal ones, `2 ^ 52`. -/
def implicitBit : Nat := 4503599627370496

/-- Read the three fields of the binary64 layout. A zero exponent field marks
the subnormal numbers, which lack the implicit leading bit. -/
def Binary.ofFloat (value : Float) : Binary :=
  let word := value.toBits.toNat
  let negative := word.testBit 63
  let field := word / implicitBit % 2048
  let fraction := word % implicitBit
  if field == 2047 then
    if fraction == 0 then .infinite negative else .notANumber
  else if field == 0 then
    .finite negative fraction (-1074)
  else
    .finite negative (implicitBit + fraction) ((field : Int) - 1075)

/-- A non-negative fraction; `den` is positive wherever one is built here. -/
structure Ratio where
  num : Nat
  den : Nat
deriving Repr, DecidableEq

/-- The fraction `mantissa * 2 ^ exponent`. -/
def Ratio.ofScaled (mantissa : Nat) (exponent : Int) : Ratio :=
  if 0 ≤ exponent then
    { num := mantissa * Nat.pow 2 exponent.toNat, den := 1 }
  else
    { num := mantissa, den := Nat.pow 2 (-exponent).toNat }

end DagScheduling.Decimal
