import Daybook.Decimal.Arithmetic

/-!
# Decimal division

A quotient is worked out by long division. It starts at the difference of the scales and is carried
on, up to nine digits at a time, until nothing remains or there is no room for another digit; what
then remains is rounded to the even neighbour. A quotient that was carried on is freed of trailing
zeros in groups, so a long run of zeros may keep some of them.
-/

namespace Daybook

/-- A division under way: the value is that of `quotient`, and `remainder` over the divisor, with
the point `scale` places from the right; a negative scale stands for zeros before the point. -/
structure LongDivision where
  quotient : Nat
  remainder : Nat
  scale : Int

namespace LongDivision

/-- The division of one mantissa by another, with a quotient of the given scale. -/
def start (dividend divisor : Nat) (scale : Int) : LongDivision :=
  ⟨dividend / divisor, dividend % divisor, scale⟩

/-- What is divided, at the scale of the quotient. -/
def dividend (divisor : Nat) (s : LongDivision) : Nat := s.quotient * divisor + s.remainder

/-- How many digits there is room for in one step: at most nine, within the most places, and as
long as the quotient so far stays in range. -/
def room (s : LongDivision) : Nat :=
  (List.range' 1 9).countP fun (n : Nat) =>
    decide (s.scale + (n : Int) ≤ maxScale) && decide (s.quotient * tenPow n < mantissaBound)

/-- The division with `n` more digits of the quotient. -/
def extend (divisor n : Nat) (s : LongDivision) : LongDivision where
  quotient := s.quotient * tenPow n + s.remainder * tenPow n / divisor
  remainder := s.remainder * tenPow n % divisor
  scale := s.scale + n

theorem scale_lt_of_room {s : LongDivision} (h : s.room ≠ 0) : s.scale < (maxScale : Int) := by
  obtain ⟨n, hn, hp⟩ := List.countP_pos_iff.1 (Nat.pos_of_ne_zero h)
  rw [List.mem_range'_1] at hn
  rw [Bool.and_eq_true, decide_eq_true_eq] at hp
  omega

/-- Carry the quotient on until nothing remains or there is no more room. -/
def carry (divisor : Nat) (s : LongDivision) : LongDivision :=
  if _h : s.remainder = 0 ∨ s.room = 0 then s
  else carry divisor (s.extend divisor s.room)
termination_by ((maxScale : Int) - s.scale).toNat
decreasing_by
  have := scale_lt_of_room (s := s) (by omega)
  simp only [extend]
  omega

/-- The mantissa and scale of the rounded quotient. One that is a place too long is rounded a place
earlier; zeros that stand before the point are written out if nothing remains. -/
def rounded? (divisor : Nat) (s : LongDivision) : Option (Nat × Nat) :=
  match s.scale with
  | .negSucc k => if s.remainder = 0 then some (s.quotient * tenPow (k + 1), 0) else none
  | .ofNat places =>
    let nearest := divNearestEven (s.dividend divisor) divisor
    if nearest < mantissaBound then some (nearest, places)
    else match places with
      | 0          => none
      | places + 1 => some (divNearestEven (s.dividend divisor) (divisor * 10), places)

/-! ### Trailing zeros -/

/-- Drop `n` trailing zeros behind the point, if there are so many. -/
def dropZeros (n : Nat) : Nat × Nat → Nat × Nat
  | (mantissa, scale) =>
    if n ≤ scale ∧ mantissa % tenPow n = 0 then (mantissa / tenPow n, scale - n) else (mantissa, scale)

/-- Drop eight trailing zeros at a time as long as the mantissa is a multiple of `2 ^ 32` too. -/
def dropOctets (mantissa scale : Nat) : Nat × Nat :=
  if 8 ≤ scale ∧ mantissa % UInt32.size = 0 ∧ mantissa % tenPow 8 = 0 then
    dropOctets (mantissa / tenPow 8) (scale - 8)
  else (mantissa, scale)
termination_by scale

/-- Drop groups of eight trailing zeros, then one group each of four, two and one. -/
def trim : Nat × Nat → Nat × Nat
  | (mantissa, scale) => dropZeros 1 (dropZeros 2 (dropZeros 4 (dropOctets mantissa scale)))

end LongDivision

namespace Decimal

/-- The quotient, which there is none of by zero. One that comes out even at the difference of the
scales keeps that scale. -/
def div (a b : Decimal) : Except Overflow Decimal :=
  if b.isZero then .error .divisionByZero
  else if a.isZero then .ok zero
  else
    let divisor := b.mantissa.natAbs
    let first := LongDivision.start a.mantissa.natAbs divisor (a.scale - b.scale)
    let written := ((first.carry divisor).rounded? divisor).map
      (if first.remainder = 0 then id else LongDivision.trim)
    match written.bind fun (m, s) => of? (a.mantissa.sign * b.mantissa.sign * m) s with
    | some c => .ok c
    | none   => .error .division

end Decimal

end Daybook
