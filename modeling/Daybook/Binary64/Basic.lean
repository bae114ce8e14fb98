import Daybook.Powers
import Daybook.Decimal.Rounding

/-!
# Doubles

The finite numbers of the 64-bit binary format, as a significand times a power of two, and the
rounding of an exact fraction to the nearest of them (ties to the even significand). Multiplication
and division are the exact result, rounded once.
-/

namespace Daybook

/-- A finite double: `± significand * 2 ^ exponent`. -/
structure Binary64 where
  negative : Bool
  significand : Nat
  exponent : Int
  deriving DecidableEq

namespace Binary64

/-- The exponent of the smallest doubles. -/
def minExponent : Int := -1074

/-- The exponent of the largest doubles. -/
def maxExponent : Int := 971

def zero : Binary64 := ⟨false, 0, minExponent⟩

/-- The fraction `num * 2 ^ (-exponent) / den` as a pair of natural numbers. -/
def scaleByTwo (num den : Nat) (exponent : Int) : Nat × Nat :=
  (num * twoPow (-exponent).toNat, den * twoPow exponent.toNat)

/-- The largest `e` with `2 ^ e ≤ num / den`, for positive numbers. -/
def floorLog2 (num den : Nat) : Int :=
  let guess : Int := (Nat.log2 num : Int) - Nat.log2 den
  let (n, d) := scaleByTwo num den guess
  if n < d then guess - 1 else guess

/-- The magnitude nearest to `num / den`; none beyond the largest double. -/
def nearestMagnitude? (num den : Nat) : Option (Nat × Int) :=
  if num = 0 then some (0, minExponent)
  else
    let exponent := max (floorLog2 num den - 52) minExponent
    let (n, d) := scaleByTwo num den exponent
    let significand := divNearestEven n d
    let (significand, exponent) :=
      if significand = twoPow 53 then (twoPow 52, exponent + 1) else (significand, exponent)
    if exponent ≤ maxExponent then some (significand, exponent) else none

/-- The double nearest to `± num / den`; none beyond the largest double. -/
def nearest? (negative : Bool) (num den : Nat) : Option Binary64 :=
  (nearestMagnitude? num den).map fun (m, e) => ⟨negative, m, e⟩

/-- The magnitude as a fraction of natural numbers. -/
def toFraction (x : Binary64) : Nat × Nat :=
  (x.significand * twoPow x.exponent.toNat, twoPow (-x.exponent).toNat)

/-- The product, rounded; none if it is too large. -/
def mul? (x y : Binary64) : Option Binary64 :=
  let (a, b) := x.toFraction
  let (c, d) := y.toFraction
  nearest? (x.negative != y.negative) (a * c) (b * d)

/-- The quotient by a double other than zero, rounded; none if it is too large. -/
def div? (x y : Binary64) : Option Binary64 :=
  let (a, b) := x.toFraction
  let (c, d) := y.toFraction
  nearest? (x.negative != y.negative) (a * d) (b * c)

/-- The same magnitude with the given sign. -/
def withSign (x : Binary64) (negative : Bool) : Binary64 := { x with negative }

end Binary64

end Daybook
