import Daybook.Pattern.Bracket
import Daybook.Pattern.Layout

/-!
# The syntax of regular expressions

`Regex.parse?` reads a regular expression from its text. Groups that are open are kept on a stack, so
the text is gone through once. Flags hold from where they are set to the end of their group, also across
alternatives.

There are no back references and no look-around. An expression that is nested too deeply or whose
compiled form would be too large is refused.
-/

namespace Daybook.Pattern

open Text

/-! ### Expressions while they are read -/

/-- A tree together with its depth. Flags are parts that cannot be repeated. -/
structure Part where
  tree : Tree
  depth : Nat
  repeatable : Bool

def Part.leaf (t : Tree) : Part := ⟨t, 0, true⟩

/-- Join parts by an operation; one part stays as it is. -/
def joinParts (op : List Tree → Tree) : List Part → Part
  | []  => .leaf .empty
  | [p] => p
  | ps  => ⟨op (ps.map (·.tree)), ps.foldl (fun d p => max d p.depth) 0 + 1, true⟩

/-- A group that is still open: its number if it keeps what it matches, the flags that hold after it,
its finished alternatives and the parts of the current one, latest first. -/
structure OpenGroup where
  number? : Option Nat
  flagsAfter : Flags
  alternatives : List Part
  parts : List Part

namespace OpenGroup

def begin (number? : Option Nat) (flagsAfter : Flags) : OpenGroup := ⟨number?, flagsAfter, [], []⟩

/-- Add a part to the current alternative. -/
def add (g : OpenGroup) (p : Part) : OpenGroup := { g with parts := p :: g.parts }

def current (g : OpenGroup) : Part := joinParts .seq g.parts.reverse

/-- Begin the next alternative. -/
def next (g : OpenGroup) : OpenGroup :=
  { g with alternatives := g.current :: g.alternatives, parts := [] }

/-- What the group holds. -/
def value (g : OpenGroup) : Part := joinParts .alt (g.current :: g.alternatives).reverse

/-- The group once it is closed. -/
def close (g : OpenGroup) : Part :=
  let inside := g.value
  ⟨match g.number? with
    | some number => .group number inside.tree
    | none        => inside.tree,
    inside.depth + 1, true⟩

def repeat? (g : OpenGroup) (least : Nat) (most? : Option Nat) : Option OpenGroup :=
  match g.parts with
  | p :: ps =>
    if p.repeatable then
      some { g with parts := ⟨.times p.tree least most?, p.depth + 1, true⟩ :: ps }
    else none
  | [] => none

end OpenGroup

/-! ### Repetitions -/

/-- Decimal digits, as a list, and what follows them. -/
def takeDigits (flags : Flags) : List Char → List Char × List Char
  | []      => ([], [])
  | c :: cs =>
    if c.isDigit then
      let (digits, rest) := takeDigits flags (flags.skip cs)
      (c :: digits, rest)
    else ([], c :: cs)
termination_by cs => cs.length
decreasing_by
  have := flags.length_skip_le cs
  simp; omega

/-- A count below 2^32. Blanks may stand around it. -/
def readCount? (flags : Flags) (cs : List Char) : Option (Nat × List Char) :=
  let (digits, rest) := takeDigits flags (trimStart cs)
  let value := digits.foldl (fun n d => n * 10 + (d.toNat - '0'.toNat)) 0
  if digits.isEmpty || UInt32.size ≤ value then none else some (value, flags.skip (trimStart rest))

/-- A question mark after a repetition changes which match is preferred, not whether there is one. -/
def skipLazy : List Char → List Char
  | '?' :: cs => cs
  | cs        => cs

/-- The counts of a repetition, after the opening brace. -/
def readCounts? (flags : Flags) (cs : List Char) : Option (Nat × Option Nat × List Char) := do
  let (least, rest) ← readCount? flags (flags.skip cs)
  let (most?, rest) ← match rest with
    | '}' :: rest => some (some least, rest)
    | ',' :: rest =>
      match flags.skip rest with
      | '}' :: rest => some (none, rest)
      | rest => do
        let (most, rest) ← readCount? flags rest
        match rest with
        | '}' :: rest => if least ≤ most then some (some most, rest) else none
        | _           => none
    | _ => none
  some (least, most?, skipLazy (flags.skip rest))

/-! ### Groups -/

/-- Set or clear the flag of a letter. Greediness does not matter for whether there is a match. -/
def Flags.assign? (flags : Flags) (value : Bool) : Char → Option Flags
  | 'i' => some { flags with ignoreCase := value }
  | 'm' => some { flags with multiLine := value }
  | 's' => some { flags with dotAll := value }
  | 'R' => some { flags with carriageReturns := value }
  | 'u' => some { flags with unicode := value }
  | 'x' => some { flags with spaced := value }
  | 'U' => some flags
  | _   => none

/-- Flags up to a colon or a closing parenthesis. Each letter and the hyphen may occur once, and a letter
has to follow the hyphen. The letters read so far are in `seen`, latest first. -/
def readFlags? (flags : Flags) (seen : List Char) : List Char → Option (Flags × Char × List Char)
  | []      => none
  | c :: cs =>
    if c = ':' || c = ')' then
      if seen.head? = some '-' || (c = ')' && seen.isEmpty) then none else some (flags, c, cs)
    else if seen.contains c then none
    else if c = '-' then readFlags? flags (c :: seen) cs
    else do
      let flags ← flags.assign? (!seen.contains '-') c
      readFlags? flags (c :: seen) cs

/-- Whether the name of a group may hold a character. -/
def isNameChar (c : Char) : Bool :=
  "_.[]".toList.contains c || Unicode.hasProperty "alphabetic" c
    || ["Nd", "Nl", "No"].contains (Unicode.category c)

/-- Whether the name of a group may begin with a character. -/
def isNameStart (c : Char) : Bool := c = '_' || Unicode.hasProperty "alphabetic" c

/-- The name of a group, up to the closing angle bracket. -/
def readName? (cs : List Char) : Option (String × List Char) :=
  let name := cs.takeWhile (· != '>')
  match name, cs.drop name.length with
  | first :: more, '>' :: rest =>
    if isNameStart first && more.all isNameChar then some (String.ofList name, rest) else none
  | _, _ => none

/-- What an opening parenthesis begins: flags for the rest of the group around it, a group with flags of
its own, or one that keeps what it matches. -/
inductive Opening where
  | flags (flags : Flags)
  | group (flags : Flags)
  | keeping (name? : Option String)

/-- Read what follows an opening parenthesis. -/
def readOpening? (flags : Flags) (cs : List Char) : Option (Opening × List Char) :=
  match flags.skip cs with
  | '?' :: '=' :: _        => none
  | '?' :: '!' :: _        => none
  | '?' :: '<' :: '=' :: _ => none
  | '?' :: '<' :: '!' :: _ => none
  | '?' :: 'P' :: '<' :: rest =>
    (readName? rest).map fun (name, rest) => (.keeping (some name), rest)
  | '?' :: '<' :: rest =>
    (readName? rest).map fun (name, rest) => (.keeping (some name), rest)
  | '?' :: rest => do
    let (flags, close, rest) ← readFlags? flags [] rest
    some (if close = ')' then .flags flags else .group flags, rest)
  | rest => some (.keeping none, rest)

/-! ### Single characters -/

/-- A character that stands for itself. -/
def literal (flags : Flags) (c : Char) : Part := .leaf (.set (flags.fold (.singleton c)))

/-- The set of a dot. -/
def dot? (flags : Flags) : Option CharSet :=
  if !flags.unicode then none
  else if flags.dotAll then some .all
  else if flags.carriageReturns then some (.complement (.union (.singleton '\r') (.singleton '\n')))
  else some (.complement (.singleton '\n'))

/-- The anchor of a circumflex. -/
def lineStart (flags : Flags) : Anchor :=
  if flags.multiLine then .lineStart flags.carriageReturns else .textStart

/-- The anchor of a dollar sign. -/
def lineEnd (flags : Flags) : Anchor :=
  if flags.multiLine then .lineEnd flags.carriageReturns else .textEnd

/-- The part that an escape stands for. -/
def Escape.part (flags : Flags) : Escape → Part
  | char c   => literal flags c
  | set s    => .leaf (.set s)
  | anchor a => .leaf (.anchor a)

/-! ### Expressions -/

/-- The groups that are open, innermost first, with the flags in force, how many groups are numbered, and
the names given. -/
structure Reader where
  flags : Flags
  inner : OpenGroup
  outer : List OpenGroup
  numbered : Nat
  names : List String

namespace Reader

/-- The state before the first character. -/
def initial : Reader := ⟨.initial, .begin none .initial, [], 0, []⟩

/-- Add a part to the innermost group. -/
def add (r : Reader) (p : Part) : Reader := { r with inner := r.inner.add p }

def repeat? (r : Reader) (least : Nat) (most? : Option Nat) : Option Reader :=
  (r.inner.repeat? least most?).map ({ r with inner := · })

def openGroup (r : Reader) (number? : Option Nat) (flags : Flags) : Reader :=
  { r with flags := flags, inner := .begin number? r.flags, outer := r.inner :: r.outer }

/-- Open a group or set flags. Names of groups may not recur. -/
def open? (r : Reader) : Opening → Option Reader
  | .flags flags   => some { r.add ⟨.empty, 0, false⟩ with flags := flags }
  | .group flags   => some (r.openGroup none flags)
  | .keeping name? =>
    if name?.any r.names.contains then none
    else
      let number := r.numbered + 1
      some { r.openGroup (some number) r.flags with
        numbered := number, names := name?.toList ++ r.names }

def close? (r : Reader) : Option Reader :=
  match r.outer with
  | []            => none
  | outer :: more =>
    some { r with flags := r.inner.flagsAfter, inner := outer.add r.inner.close, outer := more }

/-- Read one construct that begins with a character. -/
def step? (r : Reader) (c : Char) (cs : List Char) : Option (Reader × List Char) :=
  match c with
  | '(' => do
    let (opening, rest) ← readOpening? r.flags cs
    some (← r.open? opening, rest)
  | ')' => r.close?.map (·, cs)
  | '|' => some ({ r with inner := r.inner.next }, cs)
  | '[' => do
    let (s, rest) ← readBracket? r.flags cs
    some (r.add ⟨.set s.set, s.depth, true⟩, rest)
  | '?' => (r.repeat? 0 (some 1)).map (·, skipLazy cs)
  | '*' => (r.repeat? 0 none).map (·, skipLazy cs)
  | '+' => (r.repeat? 1 none).map (·, skipLazy cs)
  | '{' => do
    let (least, most?, rest) ← readCounts? r.flags cs
    some (← r.repeat? least most?, rest)
  | '.'  => (dot? r.flags).map fun s => (r.add (.leaf (.set s)), cs)
  | '^'  => some (r.add (.leaf (.anchor (lineStart r.flags))), cs)
  | '$'  => some (r.add (.leaf (.anchor (lineEnd r.flags))), cs)
  | '\\' => (Escape.read? r.flags cs).map fun (escape, rest) => (r.add (escape.part r.flags), rest)
  | c    => some (r.add (literal r.flags c), cs)

/-- Read on to the end of the text, by at most `steps` constructs. -/
def run? : Nat → Reader → List Char → Option Part
  | 0,         _, _  => none
  | steps + 1, r, cs =>
    match r.flags.skip cs with
    | []        => if r.outer.isEmpty then some r.inner.value else none
    | c :: rest =>
      match r.step? c rest with
      | some (next, more) => run? steps next more
      | none              => none

/-- Read a whole text. A construct takes a character at least. -/
def read? (cs : List Char) : Option Part := run? (cs.length + 1) initial cs

end Reader

/-- How deep the construction of an expression may be. -/
def depthLimit : Nat := 250

end Daybook.Pattern

namespace Daybook

/-- The regular expression that a text describes. -/
def Regex.parse? (source : String) : Option Regex :=
  match Pattern.Reader.read? source.toList with
  | some part =>
    if part.depth ≤ Pattern.depthLimit && (Pattern.Plan.ofTree part.tree).fits then
      some part.tree.regex
    else none
  | none => none

end Daybook
