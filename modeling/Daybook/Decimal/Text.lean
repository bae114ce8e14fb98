import Daybook.Decimal.Arithmetic

/-!
# Written decimals

`Decimal.render` writes a decimal in plain notation with exactly as many places as its scale.

`Decimal.parsePlain?` reads plain notation: a sign, digits with at most one point, underscores
between them. Digits beyond the room of a decimal are cut at the first one that has no place; that
one rounds the place before it, a half upwards. `Decimal.parse?` also reads a power of ten behind
the number. The minus sign of a zero is not kept, except for a number that its power of ten moves
out of sight.
-/

namespace Daybook

namespace Decimal

/-! ### Writing -/

/-- The digits of a mantissa, with zeros in front so that one digit stands before the point. -/
def paddedDigits (mantissa scale : Nat) : List Char :=
  let digits := Nat.toDigits 10 mantissa
  List.replicate (scale + 1 - digits.length) '0' ++ digits

def renderMagnitude (mantissa scale : Nat) : List Char :=
  let digits := paddedDigits mantissa scale
  let whole := digits.take (digits.length - scale)
  let places := digits.drop (digits.length - scale)
  if scale = 0 then whole else whole ++ '.' :: places

/-- Plain notation with exactly `scale` places. -/
def renderChars (a : Decimal) : List Char :=
  (if a.isNegative || a.minusZero then ['-'] else []) ++ renderMagnitude a.mantissa.natAbs a.scale

/-- Plain notation with exactly `scale` places. -/
def render (a : Decimal) : String := String.ofList a.renderChars

instance : ToString Decimal := ⟨render⟩

/-! ### Reading plain notation -/

def digitValue? (c : Char) : Option Nat :=
  if c.isDigit then some (c.toNat - '0'.toNat) else none

/-- The mantissa and scale after rounding by the first digit that has no place. A half goes up; a
mantissa that grows out of its room gives up its last place. -/
def roundByDigit (mantissa scale digit : Nat) : Option (Nat × Nat) :=
  if digit < 5 then some (mantissa, scale)
  else if mantissa + 1 < mantissaBound then some (mantissa + 1, scale)
  else if scale = 0 then none
  else some ((mantissa + 5) / 10, scale - 1)

/-- Round by the first digit that has no place. All that follows has to be digits or underscores. -/
def roundOff (mantissa scale digit : Nat) (rest : List Char) : Option (Nat × Nat) :=
  if rest.all fun c => c.isDigit || c = '_' then roundByDigit mantissa scale digit else none

/-- Read the characters behind the sign. `point` tells whether the point has been passed and
`digits` whether a digit has been seen. -/
def readPlain (mantissa scale : Nat) (point digits : Bool) : List Char → Option (Nat × Nat)
  | []      => if digits then some (mantissa, scale) else none
  | c :: cs =>
    match digitValue? c with
    | some d =>
      if point && scale == maxScale then roundOff mantissa scale d cs
      else if 10 * mantissa + d < mantissaBound then
        readPlain (10 * mantissa + d) (if point then scale + 1 else scale) point true cs
      else if point then roundOff mantissa scale d cs
      else none
    | none =>
      if c = '.' && !point then readPlain mantissa scale true digits cs
      else if c = '_' && digits then readPlain mantissa scale point digits cs
      else none

def parsePlainChars? : List Char → Option Decimal
  | '-' :: cs => (readPlain 0 0 false false cs).bind fun (m, s) => of? (-(m : Int)) s
  | '+' :: cs => (readPlain 0 0 false false cs).bind fun (m, s) => of? m s
  | cs        => (readPlain 0 0 false false cs).bind fun (m, s) => of? m s

def parsePlain? (text : String) : Option Decimal := parsePlainChars? text.toList

/-! ### Reading a power of ten -/

/-- An unsigned whole number with an optional plus sign. -/
def readExponent? (cs : List Char) : Option Nat :=
  let digits := match cs with
    | '+' :: ds => ds
    | ds        => ds
  if digits.isEmpty || digits.any (fun c => !c.isDigit) then none
  else some (Nat.ofDigitChars 10 digits 0)

/-- The decimal with its point moved at most 28 places to the left. Places for which there is no room
are rounded off first, a half away from zero. -/
def movePointLeft? (a : Decimal) (exponent : Nat) : Option Decimal :=
  if a.scale + exponent ≤ maxScale then of? a.mantissa (a.scale + exponent)
  else if exponent ≤ maxScale then
    let cut := a.scale + exponent - maxScale
    let rounded := a.mantissa.sign * divNearestUp a.mantissa.natAbs (tenPow cut)
    (of? rounded maxScale).map (·.withSign a.isNegative)
  else none

/-- The decimal with its point moved `exponent` places to the right. Where zeros have to be added
the result has no trailing zeros behind the point. -/
def movePointRight? (a : Decimal) (exponent : Nat) : Option Decimal :=
  if exponent ≤ a.scale then of? a.mantissa (a.scale - exponent)
  else if exponent ≤ maxScale then do
    let power ← of? (tenPow exponent) 0
    match a.mul power with
    | .ok b    => some b.normalize
    | .error _ => none
  else none

/-- Read a decimal followed by a power of ten, as in `1.5e3`. -/
def parseScientificChars? (cs : List Char) : Option Decimal :=
  let isMark := fun c : Char => c == 'e' || c == 'E'
  match cs.dropWhile (fun c => !isMark c) with
  | []          => none
  | _ :: suffix => do
    let base ← parsePlainChars? (cs.takeWhile (fun c => !isMark c))
    match suffix with
    | '-' :: ds => base.movePointLeft? (← readExponent? ds)
    | ds        => base.movePointRight? (← readExponent? ds)

/-- Read a decimal in plain or scientific notation. -/
def parse? (text : String) : Option Decimal :=
  match parsePlain? text with
  | some a => some a
  | none   => parseScientificChars? text.toList

end Decimal

end Daybook
