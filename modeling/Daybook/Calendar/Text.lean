import Daybook.Calendar.Date
import Daybook.Text.Blank
import Daybook.Decimal.Text
import Daybook.Json.Record

/-!
# Written dates

A date is written as year, month and day with hyphens. Years outside 0 to 9999 carry a sign. A
reader also takes shorter months and days, and white space in front of each number and hyphen and
at the end.
-/

namespace Daybook

namespace Date

/-- A number with zeros in front, up to the given width. -/
def padded (width n : Nat) : List Char :=
  let digits := Nat.toDigits 10 n
  List.replicate (width - digits.length) '0' ++ digits

/-- A year: four digits, with a sign unless it lies between 0 and 9999. -/
def renderYear (year : Int) : List Char :=
  if 0 ≤ year ∧ year ≤ 9999 then padded 4 year.toNat
  else (if 0 ≤ year then '+' else '-') :: padded 4 year.natAbs

def renderChars (d : Date) : List Char :=
  renderYear d.year ++ '-' :: padded 2 d.month ++ '-' :: padded 2 d.day

def render (d : Date) : String := String.ofList d.renderChars

instance : ToString Date := ⟨render⟩

/-- Read at least one and at most `width` digits. -/
def readDigits? (width : Nat) (cs : List Char) : Option (Nat × List Char) :=
  let digits := (cs.take width).takeWhile Char.isDigit
  if digits.isEmpty then none
  else some (Nat.ofDigitChars 10 digits 0, cs.drop digits.length)

/-- Read a year: four digits at most, or any number of them behind a sign. -/
def readYear? : List Char → Option (Int × List Char)
  | '-' :: cs => (readDigits? cs.length cs).map fun (n, rest) => (-(n : Int), rest)
  | '+' :: cs => (readDigits? cs.length cs).map fun (n, rest) => ((n : Int), rest)
  | cs        => (readDigits? 4 cs).map fun (n, rest) => ((n : Int), rest)

/-- Read a hyphen, with white space in front of it. -/
def readHyphen? (cs : List Char) : Option (List Char) :=
  match Text.trimStart cs with
  | '-' :: rest => some rest
  | _           => none

def parseChars? (cs : List Char) : Option Date := do
  let (year, rest) ← readYear? (Text.trimStart cs)
  let rest ← readHyphen? rest
  let (month, rest) ← readDigits? 2 (Text.trimStart rest)
  let rest ← readHyphen? rest
  let (day, rest) ← readDigits? 2 (Text.trimStart rest)
  if (Text.trimStart rest).isEmpty then of? year month day else none

def parse? (text : String) : Option Date := parseChars? text.toList

end Date

instance : ToJson Date := ⟨fun d => .str d.render⟩

instance : FromJson Date where
  fromJson?
    | .str s => Date.parse? s
    | _      => none

/-- A date, or the mark of an undated voucher. -/
def renderDate? : Option Date → String
  | some d => d.render
  | none   => "[null]"

end Daybook
