import Daybook.Pattern.Layout

/-!
# Wildcards

In a wildcard every percent sign stands for a run of characters, line feeds included, and everything
else for itself. A wildcard covers the whole text: the text has to begin with the first literal part,
to end with the last one, and to hold the others between them in order.

The parts between are searched for as early as possible, which leaves most room for those after them.
Wildcards are bound by the same limit on compiled patterns as regular expressions.
-/

namespace Daybook

namespace Wildcard

/-- The literal parts of a text, that is, what stands between its percent signs: the first one, and
the others. -/
def parts : List Char → List Char × List (List Char)
  | []      => ([], [])
  | c :: cs =>
    let (part, more) := parts cs
    if c = '%' then ([], part :: more) else (c :: part, more)

/-- What follows a part at the beginning of a text. -/
def strip? : List Char → List Char → Option (List Char)
  | [],      cs      => some cs
  | _ :: _,  []      => none
  | p :: ps, c :: cs => if p = c then strip? ps cs else none

/-- What follows the first occurrence of a part. -/
def skipPast? (part : List Char) : List Char → Option (List Char)
  | []      => strip? part []
  | c :: cs =>
    match strip? part (c :: cs) with
    | some rest => some rest
    | none      => skipPast? part cs

/-- Whether a text is a run of characters before each of the parts, ending with the last one. -/
def coversAfterRun : List (List Char) → List Char → Bool
  | [],            cs => cs.isEmpty
  | [last],        cs => last.isSuffixOf cs
  | part :: parts, cs =>
    match skipPast? part cs with
    | some rest => coversAfterRun parts rest
    | none      => false

/-- Whether the text of a wildcard covers a text. -/
def covers (source text : String) : Bool :=
  let (first, others) := parts source.toList
  match strip? first text.toList with
  | some rest => coversAfterRun others rest
  | none      => false

/-- The plan for the text of a wildcard. -/
def plan (source : String) : Pattern.Plan :=
  let literal := fun part => if part.isEmpty then .empty else Pattern.Plan.text part
  let run := (Pattern.Plan.ofRanges CharSet.all.toRanges).repeated 0 none
  let (first, others) := parts source.toList
  .concat (.anchor .textStart :: literal first ::
    (others.flatMap fun part => [run, literal part]) ++ [.anchor .textEnd])

/-! ### Examples -/

example : covers "lunch%" "lunch with Bob" = true := by decide +kernel
example : covers "lunch%" "a lunch" = false := by decide +kernel
example : covers "a%b%b" "ab" = false := by decide +kernel

end Wildcard

/-- A text in which percent signs stand for runs of characters. -/
structure Wildcard where
  source : String
  fits : (Wildcard.plan source).fits = true
  deriving DecidableEq

namespace Wildcard

/-- The wildcard with a text, if that is not too large. -/
def compile? (source : String) : Option Wildcard :=
  if h : (plan source).fits = true then some ⟨source, h⟩ else none

/-- Whether the wildcard covers a text. -/
def isMatch (w : Wildcard) (text : String) : Bool := covers w.source text

end Wildcard

end Daybook
