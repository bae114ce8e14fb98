import Daybook.Powers

/-!
# Decimal numbers

A `Decimal` is a whole number of at most 96 bits with the place of its decimal point. Trailing
zeros are kept: `1.5` and `1.50` are different decimals of the same value, and a report shows the
places that its amounts were entered with. Comparison looks at the value alone.

A zero can carry a minus sign: it is what is left of a negative number that was rounded away. The sign
is written and has no other effect.

* `Decimal.compare` orders decimals by value, `Decimal.sameValue` is equality of value.
* `Decimal.normalize` drops the trailing zeros behind the point.
-/

namespace Daybook

/-- The mantissa of a decimal stays below this bound. -/
def mantissaBound : Nat := twoPow 96

def maxScale : Nat := 28

/-- The number `mantissa / 10 ^ scale`. -/
structure Decimal where
  mantissa : Int
  scale : Nat
  minusZero : Bool
  mantissa_lt : mantissa.natAbs < mantissaBound
  scale_le : scale ≤ maxScale
  eq_zero_of_minusZero : minusZero = true → mantissa = 0
  deriving DecidableEq

namespace Decimal

/-- The decimal with the given mantissa and scale, if they are in range. -/
def of? (mantissa : Int) (scale : Nat) : Option Decimal :=
  if h : mantissa.natAbs < mantissaBound ∧ scale ≤ maxScale then
    some ⟨mantissa, scale, false, h.1, h.2, nofun⟩
  else none

def zero : Decimal := ⟨0, 0, false, by decide, by decide, nofun⟩

def one : Decimal := ⟨1, 0, false, by decide, by decide, nofun⟩

instance : Inhabited Decimal := ⟨zero⟩

def isZero (a : Decimal) : Bool := a.mantissa == 0

def isPositive (a : Decimal) : Bool := decide (0 < a.mantissa)

def isNegative (a : Decimal) : Bool := decide (a.mantissa < 0)

/-- What a negative or positive number was rounded to: a zero keeps the sign. -/
def withSign (a : Decimal) (negative : Bool) : Decimal :=
  if h : a.mantissa = 0 then { a with minusZero := negative, eq_zero_of_minusZero := fun _ => h }
  else a

theorem withSign_of_ne_zero {a : Decimal} (h : a.mantissa ≠ 0) (negative : Bool) :
    a.withSign negative = a := by
  simp [withSign, h]

/-- The order by value: both numbers are brought to the product of their denominators. -/
def compare (a b : Decimal) : Ordering :=
  Ord.compare (a.mantissa * tenPow b.scale) (b.mantissa * tenPow a.scale)

/-- Equality of value; the scales may differ. -/
def sameValue (a b : Decimal) : Bool :=
  a.mantissa * tenPow b.scale == b.mantissa * tenPow a.scale

@[simp] theorem sameValue_self (a : Decimal) : a.sameValue a = true := by simp [sameValue]

/-! ### Trailing zeros -/

/-- Drop trailing zeros from a mantissa as long as there are places left. -/
def stripZeros (mantissa : Int) : Nat → Int × Nat
  | 0         => (mantissa, 0)
  | scale + 1 => if mantissa % 10 = 0 then stripZeros (mantissa / 10) scale else (mantissa, scale + 1)

theorem natAbs_stripZeros_le (m : Int) (s : Nat) : (stripZeros m s).1.natAbs ≤ m.natAbs := by
  induction s generalizing m with
  | zero => simp [stripZeros]
  | succ s ih =>
    simp only [stripZeros]
    split
    · exact Nat.le_trans (ih _) (by omega)
    · exact Nat.le_refl _

theorem stripZeros_scale_le (m : Int) (s : Nat) : (stripZeros m s).2 ≤ s := by
  induction s generalizing m with
  | zero => simp [stripZeros]
  | succ s ih =>
    simp only [stripZeros]
    split
    · exact Nat.le_succ_of_le (ih _)
    · exact Nat.le_refl _

/-- The same value with the fewest places. -/
def normalize (a : Decimal) : Decimal where
  mantissa := (stripZeros a.mantissa a.scale).1
  scale := (stripZeros a.mantissa a.scale).2
  minusZero := false
  mantissa_lt := Nat.lt_of_le_of_lt (natAbs_stripZeros_le ..) a.mantissa_lt
  scale_le := Nat.le_trans (stripZeros_scale_le ..) a.scale_le
  eq_zero_of_minusZero := nofun

end Decimal

end Daybook
