import Daybook.Binary64.Basic

/-!
# The shortest decimal of a double

A double stands for every number that rounds to it. `Binary64.shortest` is the number of fewest
decimal digits among them, and of several the nearest to the double, or the larger of two that are
equally near. It is found in exact arithmetic: on each decimal grid, from the coarsest, the two
neighbours of the double are tried.

`Binary64.render` writes it in plain notation, without exponent and without point where there are
no places.
-/

namespace Daybook

namespace Binary64

/-- The bounds of the numbers that round to a positive double, and the double, all over one
denominator: below, value, above, denominator. -/
def roundingInterval (significand : Nat) (exponent : Int) : Nat × Nat × Nat × Nat :=
  let up := twoPow exponent.toNat
  let down := twoPow (-exponent).toNat
  let below := if significand = twoPow 52 ∧ minExponent < exponent then 1 else 2
  ((4 * significand - below) * up, 4 * significand * up, (4 * significand + 2) * up, 4 * down)

/-- Whether `digits * 10 ^ power` rounds to the double with these bounds. The bounds themselves
round to the even significand. -/
def roundsTo (significand : Nat) (interval : Nat × Nat × Nat × Nat) (digits : Nat) (power : Int) :
    Bool :=
  let (below, _, above, den) := interval
  let x := digits * tenPow power.toNat * den
  let scale := tenPow (-power).toNat
  if significand % 2 = 0 then decide (below * scale ≤ x) && decide (x ≤ above * scale)
  else decide (below * scale < x) && decide (x < above * scale)

/-- The largest `p` with `10 ^ p` at most the fraction, for fractions of at least `10 ^ (-400)`. -/
def floorLog10 (num den : Nat) : Int :=
  ((Nat.toDigits 10 (num * tenPow 400 / den)).length : Int) - 401

/-- Try the neighbours of the value on the grid of `count` digits, then on finer grids. -/
def shortestFrom (significand : Nat) (interval : Nat × Nat × Nat × Nat) (top : Int) (count : Nat) :
    Nat → Nat × Int
  | 0        => (0, 0)
  | fuel + 1 =>
    let (_, value, _, den) := interval
    let power := top - (count : Int) + 1
    let num := value * tenPow (-power).toNat
    let grid := den * tenPow power.toNat
    let low := num / grid
    let lowHits := roundsTo significand interval low power
    let highHits := roundsTo significand interval (low + 1) power
    if lowHits && (!highHits || decide (2 * (num % grid) < grid)) then (low, power)
    else if highHits then (low + 1, power)
    else shortestFrom significand interval top (count + 1) fuel

/-- The shortest decimal `digits * 10 ^ power` that rounds to a positive double. Seventeen digits
always suffice. A double just below a power of ten is met as ten on its first grid; it is written as
one on the next. -/
def shortest (significand : Nat) (exponent : Int) : Nat × Int :=
  let interval := roundingInterval significand exponent
  let (_, value, _, den) := interval
  let (digits, power) := shortestFrom significand interval (floorLog10 value den) 1 17
  if digits % 10 = 0 then (digits / 10, power + 1) else (digits, power)

/-- `digits * 10 ^ power` in plain notation. -/
def renderPlain (digits : Nat) (power : Int) : List Char :=
  let text := Nat.toDigits 10 digits
  let places := (-power).toNat
  if power ≥ 0 then text ++ List.replicate power.toNat '0'
  else
    let padded := List.replicate (places + 1 - text.length) '0' ++ text
    padded.take (padded.length - places) ++ '.' :: padded.drop (padded.length - places)

/-- The shortest plain decimal that reads back as the double. -/
def render (x : Binary64) : String :=
  let sign := if x.negative then ['-'] else []
  if x.significand = 0 then String.ofList (sign ++ ['0'])
  else
    let (digits, power) := shortest x.significand x.exponent
    String.ofList (sign ++ renderPlain digits power)

end Binary64

end Daybook
