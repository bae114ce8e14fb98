import Daybook.Pattern.Escape

/-!
# Bracketed sets

A set in brackets lists characters, ranges, escapes, named ASCII classes and further bracketed sets,
and combines such lists from left to right by `&&`, `--` and `~~`. The reader keeps the brackets that
are open on a stack and goes through the text once.
-/

namespace Daybook.Pattern

open Text

/-! ### Sets while they are read -/

/-- A set together with the depth of its brackets and combinations. -/
structure Nested where
  set : CharSet
  depth : Nat

/-- The operations between lists of members. -/
inductive SetOp where
  | inter
  | minus
  | symmetric

def SetOp.combine : SetOp → CharSet → CharSet → CharSet
  | inter,     a, b => .inter a b
  | minus,     a, b => .minus a b
  | symmetric, a, b => .union (.minus a b) (.minus b a)

/-- A bracket that is still open: the members since the last operation, latest first, and what stands
before that operation. -/
structure OpenBracket where
  negated : Bool
  pending? : Option (Nested × SetOp)
  members : List Nested

namespace OpenBracket

/-- Add a member. -/
def add (b : OpenBracket) (member : Nested) : OpenBracket :=
  { b with members := member :: b.members }

/-- The list of members since the last operation. -/
def list (b : OpenBracket) : Nested :=
  match b.members with
  | []       => ⟨.none, 0⟩
  | [member] => member
  | members  =>
    ⟨.unions (members.reverse.map (·.set)), (members.foldl (fun d m => max d m.depth) 0) + 1⟩

/-- All that the bracket holds so far. -/
def value (flags : Flags) (b : OpenBracket) : Nested :=
  match b.pending? with
  | none => b.list
  | some (left, op) =>
    ⟨op.combine (flags.fold left.set) (flags.fold b.list.set), max left.depth b.list.depth + 1⟩

/-- Begin the right side of an operation. -/
def operate (flags : Flags) (b : OpenBracket) (op : SetOp) : OpenBracket :=
  ⟨b.negated, some (b.value flags, op), []⟩

/-- The set of the bracket once it is closed. -/
def close? (flags : Flags) (b : OpenBracket) : Option Nested := do
  let inner := b.value flags
  some ⟨← flags.signed? b.negated (flags.fold inner.set), inner.depth + 1⟩

end OpenBracket

/-! ### Members -/

/-- A character as a member. Without Unicode only ASCII is allowed. -/
def memberChar? (flags : Flags) (c : Char) : Option Nested :=
  if flags.unicode || c.toNat < 0x80 then some ⟨.singleton c, 0⟩ else none

def readMember? (flags : Flags) : List Char → Option (Escape × List Char)
  | []         => none
  | '\\' :: cs => Escape.read? flags cs
  | c :: cs    => some (.char c, cs)

/-- A range with its first end read and the rest beginning after the hyphen. -/
def readRange? (flags : Flags) (first : Escape) (cs : List Char) : Option (Nested × List Char) := do
  let (last, rest) ← readMember? flags (flags.skip cs)
  match first, last with
  | .char low, .char high =>
    if low ≤ high && (flags.unicode || high.toNat < 0x80) then
      some (⟨.range low.toNat high.toNat, 0⟩, rest)
    else none
  | _, _ => none

/-- What comes next after a hyphen. In a spaced pattern the look ahead passes over blanks and over the
sign that begins a comment, but not over the comment itself. -/
def lookAhead (flags : Flags) (cs : List Char) : List Char :=
  if flags.spaced then
    match cs.dropWhile isBlank with
    | '#' :: cs => cs.dropWhile isBlank
    | cs        => cs
  else cs

/-- Whether a hyphen followed by `cs` is a character of its own: a closing bracket or a further hyphen
comes next. -/
def hyphenStands (flags : Flags) (cs : List Char) : Bool :=
  match lookAhead flags cs with
  | ']' :: _ => true
  | '-' :: _ => true
  | _        => false

def readItem? (flags : Flags) (cs : List Char) : Option (Nested × List Char) := do
  let (first, rest) ← readMember? flags cs
  let alone : Option (Nested × List Char) :=
    match first with
    | .char c   => (memberChar? flags c).map (·, rest)
    | .set s    => some (⟨s, 0⟩, rest)
    | .anchor _ => none
  match flags.skip rest with
  | []        => none
  | '-' :: cs => if hyphenStands flags cs then alone else readRange? flags first cs
  | _         => alone

/-- A named ASCII class, after its opening bracket. -/
def readAsciiClass? (cs : List Char) : Option (CharSet × Bool × List Char) := do
  let (negated, cs) ← match cs with
    | ':' :: '^' :: cs => some (true, cs)
    | ':' :: cs        => some (false, cs)
    | _                => none
  let name := cs.takeWhile (· != ':')
  match cs.drop name.length with
  | ':' :: ']' :: rest => (CharSet.asciiClass? (String.ofList name)).map (·, negated, rest)
  | _                  => none

/-- The hyphens that may stand first in a bracket. -/
def readHyphens (flags : Flags) (b : OpenBracket) : List Char → OpenBracket × List Char
  | '-' :: cs => readHyphens flags (b.add ⟨.singleton '-', 0⟩) (flags.skip cs)
  | cs        => (b, cs)
termination_by cs => cs.length
decreasing_by
  have := flags.length_skip_le cs
  simp; omega

/-- The beginning of a bracket: a negation, hyphens, and a closing bracket that is meant as a
character. -/
def openBracket? (flags : Flags) (cs : List Char) : Option (OpenBracket × List Char) :=
  let (negated, cs) := match flags.skip cs with
    | '^' :: cs => (true, flags.skip cs)
    | cs        => (false, cs)
  let (b, cs) := readHyphens flags ⟨negated, none, []⟩ cs
  match b.members, cs with
  | _,  []        => none
  | [], ']' :: cs =>
    match flags.skip cs with
    | [] => none
    | cs => some (b.add ⟨.singleton ']', 0⟩, cs)
  | _,  cs        => some (b, cs)

/-! ### Brackets -/

/-- The brackets that are open, innermost first. -/
structure Brackets where
  inner : OpenBracket
  outer : List OpenBracket

/-- What one step of reading leads to. -/
inductive BracketStep where
  | more (b : Brackets) (rest : List Char)
  | done (s : Nested) (rest : List Char)

/-- Read one member, operation or bracket. -/
def Brackets.step? (flags : Flags) (b : Brackets) (cs : List Char) : Option BracketStep :=
  match flags.skip cs with
  | [] => none
  | '[' :: rest =>
    match readAsciiClass? rest with
    | some (s, negated, rest) => do
      let s ← flags.signed? negated (flags.fold s)
      some (.more { b with inner := b.inner.add ⟨s, 0⟩ } rest)
    | none => do
      let (opened, rest) ← openBracket? flags rest
      some (.more ⟨opened, b.inner :: b.outer⟩ rest)
  | ']' :: rest => do
    let closed ← b.inner.close? flags
    match b.outer with
    | []           => some (.done closed rest)
    | next :: more => some (.more ⟨next.add closed, more⟩ rest)
  | '&' :: '&' :: rest => some (.more { b with inner := b.inner.operate flags .inter } rest)
  | '-' :: '-' :: rest => some (.more { b with inner := b.inner.operate flags .minus } rest)
  | '~' :: '~' :: rest => some (.more { b with inner := b.inner.operate flags .symmetric } rest)
  | cs => do
    let (member, rest) ← readItem? flags cs
    some (.more { b with inner := b.inner.add member } rest)

/-- Read on until the outermost bracket is closed, by at most `steps` members, operations and
brackets. -/
def Brackets.read? (flags : Flags) : Nat → Brackets → List Char → Option (Nested × List Char)
  | 0,         _, _  => none
  | steps + 1, b, cs =>
    match b.step? flags cs with
    | none                => none
    | some (.done s rest) => some (s, rest)
    | some (.more b rest) => Brackets.read? flags steps b rest

/-- The set in brackets, after the opening one. A step takes a character at least. -/
def readBracket? (flags : Flags) (cs : List Char) : Option (Nested × List Char) := do
  let (b, rest) ← openBracket? flags cs
  Brackets.read? flags (rest.length + 1) ⟨b, []⟩ rest

end Daybook.Pattern
