import Daybook.Decimal.Basic
import Daybook.Decimal.Rounding

/-!
# Decimal arithmetic

A sum has the larger scale of its terms, a product the sum of the scales. A result that needs more
than 28 places or 96 bits is rounded to the even neighbour at the largest scale where it fits; a
result with no such scale overflows.

`Arithmetic` is the choice of operations that a computation runs on: `Arithmetic.rounding` is what
reports use.
-/

namespace Daybook

/-- The operation whose result has no place among the decimals. -/
inductive Overflow where
  | addition
  | multiplication
  | division
  | divisionByZero
  deriving DecidableEq

def Overflow.message : Overflow → String
  | .addition       => "Addition overflowed"
  | .multiplication => "Multiplication overflowed"
  | .division       => "Division overflowed"
  | .divisionByZero => "Division by zero"

namespace Decimal

/-! ### Fitting a number into a decimal -/

/-- `mantissa / 10 ^ scale` at `places ≤ scale` places, ties to even. -/
def roundTo (mantissa : Int) (scale places : Nat) : Int :=
  mantissa.sign * divNearestEven mantissa.natAbs (tenPow (scale - places))

/-- The rounding of a number to `places` places, or to the most places below that have room for it. -/
def fitFrom? (mantissa : Int) (scale : Nat) : Nat → Option Decimal
  | 0          => of? (roundTo mantissa scale 0) 0
  | places + 1 =>
    match of? (roundTo mantissa scale (places + 1)) (places + 1) with
    | some a => some a
    | none   => fitFrom? mantissa scale places

/-- The decimal nearest to `mantissa / 10 ^ scale` with as many places as there is room for. -/
def fit? (mantissa : Int) (scale : Nat) : Option Decimal :=
  fitFrom? mantissa scale (min scale maxScale)

@[simp] theorem roundTo_self (m : Int) (s : Nat) : roundTo m s s = m := by
  rw [roundTo, Nat.sub_self, tenPow_zero, divNearestEven_one, Int.sign_mul_natAbs]

theorem scale_le_of_of? {m : Int} {s : Nat} {a : Decimal} (h : of? m s = some a) :
    s ≤ maxScale := by
  unfold of? at h
  split at h
  · rename_i hb; exact hb.2
  · cases h

/-- A number that fits is not rounded. -/
theorem fit?_of_of? {m : Int} {s : Nat} {a : Decimal} (h : of? m s = some a) :
    fit? m s = some a := by
  rw [fit?, Nat.min_eq_left (scale_le_of_of? h)]
  cases s with
  | zero   => rw [fitFrom?, roundTo_self, h]
  | succ s => rw [fitFrom?, roundTo_self, h]

/-! ### Addition and multiplication -/

/-- The mantissa of `a` written with `scale` places, for `a.scale ≤ scale`. -/
def mantissaAt (a : Decimal) (scale : Nat) : Int := a.mantissa * tenPow (scale - a.scale)

/-- The larger of the two scales: where a sum is formed. -/
def sumScale (a b : Decimal) : Nat := max a.scale b.scale

/-- The mantissa of the exact sum at the larger scale. -/
def sumMantissa (a b : Decimal) : Int := a.mantissaAt (a.sumScale b) + b.mantissaAt (a.sumScale b)

/-- The sum. A zero term gives the other term as it is, with its scale. -/
def add (a b : Decimal) : Except Overflow Decimal :=
  if a.isZero then .ok b
  else if b.isZero then .ok a
  else match fit? (a.sumMantissa b) (a.sumScale b) with
    | some c => .ok c
    | none   => .error .addition

/-- A mantissa of one machine word. -/
def isShort (a : Decimal) : Bool := decide (a.mantissa.natAbs < UInt32.size)

/-- The product. A zero factor gives zero without places, and so do two short factors whose product
lies more than nineteen digits beyond the last place. A product that is rounded to zero keeps its sign
unless both factors are short. -/
def mul (a b : Decimal) : Except Overflow Decimal :=
  let short := a.isShort && b.isShort
  let product := a.mantissa * b.mantissa
  if a.isZero || b.isZero then .ok zero
  else if short && decide (maxScale + 19 < a.scale + b.scale) then .ok zero
  else match fit? product (a.scale + b.scale) with
    | some c => .ok (if short then c else c.withSign (product < 0))
    | none   => .error .multiplication

/-! ### Absolute size after rounding -/

/-- Whether the value rounds to zero at `places` places, ties to even. -/
def vanishesAt (a : Decimal) (places : Nat) : Bool :=
  if a.scale ≤ places then a.isZero
  else divNearestEven a.mantissa.natAbs (tenPow (a.scale - places)) == 0

end Decimal

/-! ### The choice of operations -/

/-- The operations that a computation on amounts is run with. -/
structure Arithmetic where
  add : Decimal → Decimal → Except Overflow Decimal
  mul : Decimal → Decimal → Except Overflow Decimal

namespace Arithmetic

/-- Results are rounded where they do not fit. -/
def rounding : Arithmetic := ⟨Decimal.add, Decimal.mul⟩

/-- The sum of a list, from zero and from left to right. -/
def sum (A : Arithmetic) (xs : List Decimal) : Except Overflow Decimal :=
  xs.foldlM A.add Decimal.zero

end Arithmetic

end Daybook
