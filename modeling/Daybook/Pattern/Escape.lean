import Daybook.Pattern.Regex
import Daybook.Text.Blank

/-!
# Escapes in patterns

What a backslash stands for: a character, a set of characters or an anchor. The reading depends on the
`Flags` in force. In spaced patterns blanks and comments may stand between the parts.
-/

namespace Daybook.Pattern

open Text

/-! ### Flags -/

/-- The switches that a pattern can set for its parts. -/
structure Flags where
  ignoreCase : Bool
  multiLine : Bool
  dotAll : Bool
  carriageReturns : Bool
  unicode : Bool
  spaced : Bool

/-- The flags at the beginning of a pattern. -/
def Flags.initial : Flags := ⟨false, false, false, false, true, false⟩

/-! ### Blanks -/

/-- What follows the blanks and the comments in a spaced pattern. -/
def skipSpace : List Char → Bool → List Char
  | [],      _     => []
  | c :: cs, true  => skipSpace cs (c != '\n')
  | c :: cs, false =>
    if isBlank c then skipSpace cs false
    else if c = '#' then skipSpace cs true
    else c :: cs

/-- What follows blanks and comments if the flags allow any. -/
def Flags.skip (flags : Flags) (cs : List Char) : List Char :=
  if flags.spaced then skipSpace cs false else cs

theorem length_skipSpace_le (cs : List Char) (comment : Bool) :
    (skipSpace cs comment).length ≤ cs.length := by
  fun_induction skipSpace cs comment <;> simp_all <;> omega

theorem Flags.length_skip_le (flags : Flags) (cs : List Char) :
    (flags.skip cs).length ≤ cs.length := by
  unfold Flags.skip
  split
  · exact length_skipSpace_le cs false
  · exact Nat.le_refl _

/-! ### Sets under flags -/

/-- A set closed under change of case if the flags ask for it. -/
def Flags.fold (flags : Flags) (s : CharSet) : CharSet :=
  if flags.ignoreCase then (if flags.unicode then .folded s else .foldedAscii s) else s

/-- The complement of a set. Without Unicode it would hold parts of characters, so there is none. -/
def Flags.complement? (flags : Flags) (s : CharSet) : Option CharSet :=
  if flags.unicode then some s.complement else none

/-- A set or its complement. -/
def Flags.signed? (flags : Flags) (negated : Bool) (s : CharSet) : Option CharSet :=
  if negated then flags.complement? s else some s

/-! ### Parts of escapes -/

/-- What an escape stands for. -/
inductive Escape where
  | char (c : Char)
  | set (s : CharSet)
  | anchor (a : Anchor)

def hexValue? (c : Char) : Option Nat :=
  if c.isDigit then some (c.toNat - '0'.toNat)
  else if 'a' ≤ c && c ≤ 'f' then some (c.toNat - 'a'.toNat + 10)
  else if 'A' ≤ c && c ≤ 'F' then some (c.toNat - 'A'.toNat + 10)
  else none

def charOf? (n : Nat) : Option Char := if n.isValidChar then some (Char.ofNat n) else none

/-- Hexadecimal digits, as many as asked for, read on from a value. -/
def hexDigits? (flags : Flags) : Nat → Nat → List Char → Option (Nat × List Char)
  | 0,         value, cs => some (value, cs)
  | count + 1, value, c :: cs => do
    let digit ← hexValue? c
    hexDigits? flags count (value * 16 + digit) (flags.skip cs)
  | _ + 1,     _,     [] => none

/-- The characters before a closing brace, and what follows it. -/
def upToBrace? (flags : Flags) (cs : List Char) : Option (List Char × List Char) :=
  let rec go : List Char → List Char → Bool → Option (List Char × List Char)
    | _,    [],      _     => none
    | seen, c :: cs, true  => go seen cs (c != '\n')
    | seen, c :: cs, false =>
      if flags.spaced && isBlank c then go seen cs false
      else if flags.spaced && c = '#' then go seen cs true
      else if c = '}' then some (seen.reverse, cs)
      else go (c :: seen) cs false
  go [] cs false

/-- A character given by its code point, after the letter that says how many digits there are. -/
def hexEscape? (flags : Flags) (letter : Char) (cs : List Char) : Option (Escape × List Char) :=
  match flags.skip cs with
  | '{' :: cs => do
    let (digits, rest) ← upToBrace? flags cs
    let values ← digits.mapM hexValue?
    if values.isEmpty then none
    else
      let value := values.foldl (fun n d => n * 16 + d) 0
      some (.char (← charOf? value), flags.skip rest)
  | cs => do
    let count := if letter = 'x' then 2 else if letter = 'u' then 4 else 8
    let (value, rest) ← hexDigits? flags count 0 cs
    let c ← charOf? value
    if letter = 'x' && !flags.unicode && 0x80 ≤ value then none else some (.char c, rest)

def splitAt? (separator : List Char) : List Char → Option (List Char × List Char)
  | []      => none
  | c :: cs =>
    if separator.isPrefixOf (c :: cs) then some ([], (c :: cs).drop separator.length)
    else (splitAt? separator cs).map fun (before, after) => (c :: before, after)

/-- The set that a property describes, and whether its complement is meant. -/
def propertySet? (description : List Char) : Option (CharSet × Bool) :=
  let valued := fun (key, value) => CharSet.ofValue? (String.ofList key) (String.ofList value)
  match splitAt? ['!', '='] description with
  | some split => (valued split).map (·, true)
  | none =>
    match splitAt? [':'] description <|> splitAt? ['='] description with
    | some split => (valued split).map (·, false)
    | none       => (CharSet.ofName? (String.ofList description)).map (·, false)

def propertyEscape? (flags : Flags) (negated : Bool) (cs : List Char) :
    Option (Escape × List Char) := do
  let (description, rest) ← match flags.skip cs with
    | []        => none
    | '\\' :: _ => none
    | '{' :: cs => upToBrace? flags cs
    | c :: cs   => some ([c], flags.skip cs)
  let (s, complemented) ← propertySet? description
  if flags.unicode then
    some (.set (← flags.signed? (negated != complemented) (flags.fold s)), rest)
  else none

/-- The set of digits, white space or characters of words. -/
def classEscape? (flags : Flags) (letter : Char) : Option Escape :=
  let named := fun (full ascii : CharSet) => if flags.unicode then full else ascii
  let s := match letter.toLower with
    | 'd' => named .digit .asciiDigit
    | 's' => named .space .asciiSpace
    | _   => named .word .asciiWord
  (flags.signed? letter.isUpper s).map .set

/-- Whether a word boundary's name could hold a character. -/
def isSideChar (c : Char) : Bool := c.isAlpha || c = '-'

/-- The side of a word with a name. -/
def wordSide? : String → Option WordSide
  | "start"      => some .start
  | "end"        => some .finish
  | "start-half" => some .startHalf
  | "end-half"   => some .finishHalf
  | _            => none

/-- A word boundary after its letter: a side may follow in braces. -/
def boundaryEscape? (flags : Flags) (cs : List Char) : Option (Escape × List Char) :=
  let plain : Escape × List Char := (.anchor (.word .boundary flags.unicode), cs)
  match cs with
  | '{' :: inner =>
    match flags.skip inner with
    | []     => none
    | c :: _ =>
      if isSideChar c then do
        let (name, rest) ← upToBrace? flags inner
        let side ← wordSide? (String.ofList name)
        some (.anchor (.word side flags.unicode), rest)
      else some plain
  | _ => some plain

/-- Whether a backslash before the character makes it stand for itself. -/
def isEscapable (c : Char) : Bool :=
  c.toNat < 0x80 && !c.isAlphanum && c != '<' && c != '>'

/-! ### Escapes -/

def Escape.read? (flags : Flags) : List Char → Option (Escape × List Char)
  | []      => none
  | c :: cs =>
    if c = 'x' || c = 'u' || c = 'U' then hexEscape? flags c cs
    else if c = 'p' || c = 'P' then propertyEscape? flags (c = 'P') cs
    else if "dswDSW".toList.contains c then (classEscape? flags c).map (·, cs)
    else if isEscapable c then some (.char c, cs)
    else
      match c with
      | 'a' => some (.char '\x07', cs)
      | 'f' => some (.char '\x0c', cs)
      | 't' => some (.char '\t', cs)
      | 'n' => some (.char '\n', cs)
      | 'r' => some (.char '\r', cs)
      | 'v' => some (.char '\x0b', cs)
      | 'A' => some (.anchor .textStart, cs)
      | 'z' => some (.anchor .textEnd, cs)
      | 'b' => boundaryEscape? flags cs
      | 'B' => some (.anchor (.word .notBoundary flags.unicode), cs)
      | '<' => some (.anchor (.word .start flags.unicode), cs)
      | '>' => some (.anchor (.word .finish flags.unicode), cs)
      | _   => none

end Daybook.Pattern
