import Daybook.Json.Basic
import Daybook.Decimal.Text

/-!
# Tokens of a document

`Json.tokens?` cuts a text into tokens, or refuses it: a text with control characters in a string,
with half a surrogate pair, with a number of leading zeros or without digits after its point has
none. Numbers are turned into their values here.

The double of a number literal is computed from the leading digits that fit into 64 bits: they are
rounded to a double, which is then multiplied or divided by the double nearest to a power of ten.
-/

namespace Daybook

namespace Json

/-- A token of a document. -/
inductive Token where
  | openArray
  | closeArray
  | openObject
  | closeObject
  | colon
  | comma
  | null
  | bool (b : Bool)
  | int (i : Int)
  | double (x : Binary64)
  | str (s : String)
  deriving DecidableEq

/-! ### Numbers -/

/-- The largest whole number that is kept as it is. -/
def maxWhole : Nat := UInt64.size - 1

/-- The digits of a literal that still fit, and what the dropped ones are worth as powers of ten. -/
structure Leading where
  significand : Nat
  exponent : Int
  deriving DecidableEq

/-- Take whole digits while they fit; each one after that is worth a power of ten. -/
def Leading.ofWhole (significand : Nat) : List Nat → Leading
  | []      => ⟨significand, 0⟩
  | d :: ds =>
    if 10 * significand + d ≤ maxWhole then ofWhole (10 * significand + d) ds
    else ⟨significand, ds.length + 1⟩

/-- Take digits behind the point while they fit, and none after one that does not. -/
def Leading.addPlaces (lead : Leading) : List Nat → Leading
  | []      => lead
  | d :: ds =>
    if 10 * lead.significand + d ≤ maxWhole then
      addPlaces ⟨10 * lead.significand + d, lead.exponent - 1⟩ ds
    else lead

/-- The exponent up to which a power of ten is a double. -/
def maxPowerOfTen : Nat := 308

/-- The double nearest to a power of ten. -/
def powerOfTen? (exponent : Nat) : Option Binary64 := Binary64.nearest? false (tenPow exponent) 1

/-- Multiply or divide a double by a power of ten. Beyond the largest power a division is done in
steps, and a multiplication has no result unless the double is zero. -/
def scaleByTen? (x : Binary64) (exponent : Int) : Nat → Option Binary64
  | 0        => some x
  | fuel + 1 =>
    if exponent.natAbs ≤ maxPowerOfTen then do
      let power ← powerOfTen? exponent.natAbs
      if 0 ≤ exponent then x.mul? power else x.div? power
    else if x.significand = 0 then some x
    else if 0 ≤ exponent then none
    else do
      let power ← powerOfTen? maxPowerOfTen
      let y ← x.div? power
      scaleByTen? y (exponent + maxPowerOfTen) fuel

/-- The value of a literal with point or exponent. Eight steps bring any double to zero. -/
def Leading.double? (negative : Bool) (lead : Leading) : Option Binary64 := do
  let x ← Binary64.nearest? false lead.significand 1
  let y ← scaleByTen? x lead.exponent 8
  some (y.withSign negative)

/-- Exponents are counted up to this bound. -/
def maxExponentDigits : Nat := Int32.maxValue.toInt.toNat

/-- Add a written exponent, held within 32 bits. -/
def Leading.addExponent (lead : Leading) (negative : Bool) (exponent : Nat) : Leading :=
  let sum := if negative then lead.exponent - exponent else lead.exponent + exponent
  { lead with exponent := max Int32.minValue.toInt (min sum Int32.maxValue.toInt) }

/-- The value of a literal with an exponent. An exponent beyond 32 bits makes the number zero or
too large. -/
def exponentValue? (negative : Bool) (lead : Leading) (expNegative : Bool) (exponent : Nat) :
    Option Binary64 :=
  if maxExponentDigits < exponent then
    if lead.significand ≠ 0 ∧ !expNegative then none else some ⟨negative, 0, Binary64.minExponent⟩
  else (lead.addExponent expNegative exponent).double? negative

/-- The digits in front of a text, and the rest. -/
def spanDigits : List Char → List Nat × List Char
  | []      => ([], [])
  | c :: cs =>
    match Decimal.digitValue? c with
    | some d => let (ds, rest) := spanDigits cs; (d :: ds, rest)
    | none   => ([], c :: cs)

/-- The number that a list of digits writes. -/
def ofDigits (ds : List Nat) : Nat := ds.foldl (fun n d => 10 * n + d) 0

/-- Read an exponent if there is one: its sign, its digits, and the rest. -/
def readExponent? : List Char → Option (Option (Bool × Nat) × List Char)
  | c :: cs =>
    if c = 'e' || c = 'E' then
      let (negative, cs) := match cs with
        | '+' :: ds => (false, ds)
        | '-' :: ds => (true, ds)
        | ds        => (false, ds)
      match spanDigits cs with
      | ([], _)    => none
      | (ds, rest) => some (some (negative, ofDigits ds), rest)
    else some (none, c :: cs)
  | [] => some (none, [])

/-- Read the places behind the point if there is one. -/
def readPlaces? : List Char → Option (Option (List Nat) × List Char)
  | '.' :: cs =>
    match spanDigits cs with
    | ([], _)    => none
    | (ds, rest) => some (some ds, rest)
  | cs        => some (none, cs)

/-- The token of a number literal given by its parts. -/
def numberToken? (negative : Bool) (whole : List Nat) (places : Option (List Nat))
    (exponent : Option (Bool × Nat)) : Option Token :=
  let lead := Leading.ofWhole 0 whole
  match places, exponent with
  | none, none =>
    let n := ofDigits whole
    if negative then
      if n = 0 ∨ UInt64.size / 2 < n then (lead.double? true).map .double else some (.int (-(n : Int)))
    else if n ≤ maxWhole then some (.int n)
    else (lead.double? false).map .double
  | some ds, none => ((lead.addPlaces ds).double? negative).map .double
  | none, some (s, e) => (exponentValue? negative lead s e).map .double
  | some ds, some (s, e) => (exponentValue? negative (lead.addPlaces ds) s e).map .double

def readNumber? (negative : Bool) (cs : List Char) : Option (Token × List Char) :=
  match spanDigits cs with
  | ([], _)               => none
  | (0 :: _ :: _, _)      => none
  | (whole, rest)         => do
    let (places, rest) ← readPlaces? rest
    let (exponent, rest) ← readExponent? rest
    let token ← numberToken? negative whole places exponent
    some (token, rest)

/-! ### Strings -/

def hexValue? (c : Char) : Option Nat :=
  if c.isDigit then some (c.toNat - '0'.toNat)
  else if 'a' ≤ c ∧ c ≤ 'f' then some (c.toNat - 'a'.toNat + 10)
  else if 'A' ≤ c ∧ c ≤ 'F' then some (c.toNat - 'A'.toNat + 10)
  else none

/-- The number that four hexadecimal digits write. -/
def hexWord? (a b c d : Char) : Option Nat := do
  some (((← hexValue? a) * 16 + (← hexValue? b)) * 256 + (← hexValue? c) * 16 + (← hexValue? d))

/-- The character of an escape of one letter. -/
def simpleEscape? : Char → Option Char
  | '"'  => some '"'
  | '\\' => some '\\'
  | '/'  => some '/'
  | 'b'  => some '\x08'
  | 'f'  => some '\x0c'
  | 'n'  => some '\n'
  | 'r'  => some '\r'
  | 't'  => some '\t'
  | _    => none

/-- Put a character in front of the string that a reader found. -/
def consChar (c : Char) (found : Option (List Char × List Char)) :
    Option (List Char × List Char) :=
  found.map fun (s, rest) => (c :: s, rest)

/-- Read the inside of a string up to the closing quote. -/
def readString? : List Char → Option (List Char × List Char)
  | '"' :: cs => some ([], cs)
  | '\\' :: 'u' :: a :: b :: c :: d :: '\\' :: 'u' :: a' :: b' :: c' :: d' :: cs =>
    match hexWord? a b c d with
    | none   => none
    | some w =>
      if 0xD800 ≤ w ∧ w < 0xDC00 then
        match hexWord? a' b' c' d' with
        | some v =>
          if 0xDC00 ≤ v ∧ v < 0xE000 then
            consChar (Char.ofNat (0x10000 + (w - 0xD800) * 0x400 + (v - 0xDC00))) (readString? cs)
          else none
        | none => none
      else if 0xDC00 ≤ w ∧ w < 0xE000 then none
      else consChar (Char.ofNat w) (readString? ('\\' :: 'u' :: a' :: b' :: c' :: d' :: cs))
  | '\\' :: 'u' :: a :: b :: c :: d :: cs =>
    match hexWord? a b c d with
    | some w =>
      if 0xD800 ≤ w ∧ w < 0xE000 then none else consChar (Char.ofNat w) (readString? cs)
    | none   => none
  | '\\' :: c :: cs =>
    match simpleEscape? c with
    | some e => consChar e (readString? cs)
    | none   => none
  | c :: cs => if c.toNat < 0x20 then none else consChar c (readString? cs)
  | [] => none
termination_by cs => cs.length

/-! ### The tokens of a text -/

/-- The blanks between tokens. -/
def isBlank (c : Char) : Bool := c == ' ' || c == '\n' || c == '\t' || c == '\r'

/-- Read the token in front of a text that does not start with a blank. -/
def readToken? : List Char → Option (Token × List Char)
  | '[' :: cs                             => some (.openArray, cs)
  | ']' :: cs                             => some (.closeArray, cs)
  | '{' :: cs                             => some (.openObject, cs)
  | '}' :: cs                             => some (.closeObject, cs)
  | ':' :: cs                             => some (.colon, cs)
  | ',' :: cs                             => some (.comma, cs)
  | 'n' :: 'u' :: 'l' :: 'l' :: cs        => some (.null, cs)
  | 't' :: 'r' :: 'u' :: 'e' :: cs        => some (.bool true, cs)
  | 'f' :: 'a' :: 'l' :: 's' :: 'e' :: cs => some (.bool false, cs)
  | '"' :: cs => (readString? cs).map fun (s, rest) => (.str (String.ofList s), rest)
  | '-' :: cs => readNumber? true cs
  | cs        => readNumber? false cs

/-- Cut a text into tokens. One unit of fuel is spent on each blank and each token. -/
def tokensFrom? : Nat → List Char → Option (List Token)
  | _,        []      => some []
  | 0,        _       => none
  | fuel + 1, c :: cs =>
    if isBlank c then tokensFrom? fuel cs
    else
      match readToken? (c :: cs) with
      | none               => none
      | some (token, rest) => (tokensFrom? fuel rest).map (token :: ·)

/-- The tokens of a text, if it has any cut. A text has no more tokens than characters. -/
def tokens? (cs : List Char) : Option (List Token) := tokensFrom? cs.length cs

end Json

end Daybook
