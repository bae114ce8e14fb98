import Daybook.Pattern.CharSet
import Std.Data.HashSet

/-!
# Regular expressions

A `Regex` is built from sets of characters and anchors. It is matched by partial derivatives:
`Regex.step` reads one character and gives the expressions for what may follow, and
`Regex.isMatch` keeps the list of those that are still possible, so the time is bounded by their number
times the length of the text.

An anchor looks at the characters on both sides of a `Place` and reads nothing.
-/

namespace Daybook

/-! ### Places and anchors -/

/-- A position in a text, with its neighbours. -/
structure Place where
  before? : Option Char
  after? : Option Char

/-- How a place may lie to a word. -/
inductive WordSide where
  | boundary
  | notBoundary
  | start
  | finish
  | startHalf
  | finishHalf
  deriving DecidableEq, Hashable

/-- A condition on a place. Lines end at a line feed or, with carriage returns, at either character or
at both together. -/
inductive Anchor where
  | textStart
  | textEnd
  | lineStart (carriageReturns : Bool)
  | lineEnd (carriageReturns : Bool)
  | word (side : WordSide) (unicode : Bool)
  deriving DecidableEq, Hashable

/-- Whether the neighbour is there and belongs to a word. -/
def inWord (unicode : Bool) : Option Char → Bool
  | some c => (if unicode then CharSet.word else CharSet.asciiWord).contains c
  | none   => false

/-- Whether a place lies to a word as asked, given which neighbours belong to words. -/
def WordSide.holds : WordSide → Bool → Bool → Bool
  | boundary,    before, after => before != after
  | notBoundary, before, after => before == after
  | start,       before, after => !before && after
  | finish,      before, after => before && !after
  | startHalf,   before, _     => !before
  | finishHalf,  _,      after => !after

/-- Whether an anchor holds at a place. -/
def Anchor.holds (p : Place) : Anchor → Bool
  | textStart       => p.before?.isNone
  | textEnd         => p.after?.isNone
  | lineStart false => p.before?.isNone || p.before? == some '\n'
  | lineStart true  =>
    p.before?.isNone || p.before? == some '\n' || (p.before? == some '\r' && p.after? != some '\n')
  | lineEnd false   => p.after?.isNone || p.after? == some '\n'
  | lineEnd true    =>
    p.after?.isNone || p.after? == some '\r' || (p.after? == some '\n' && p.before? != some '\r')
  | word side unicode => side.holds (inWord unicode p.before?) (inWord unicode p.after?)

/-! ### Expressions -/

/-- A regular expression. -/
inductive Regex where
  | empty
  | set (s : CharSet)
  | anchor (a : Anchor)
  | seq (r s : Regex)
  | alt (r s : Regex)
  | times (least : Nat) (most? : Option Nat) (r : Regex)
  deriving DecidableEq, Hashable

namespace Regex

/-- Whether the expression matches the empty text at a place. -/
def nullableAt (p : Place) : Regex → Bool
  | empty          => true
  | set _          => false
  | anchor a       => a.holds p
  | seq r s        => r.nullableAt p && s.nullableAt p
  | alt r s        => r.nullableAt p || s.nullableAt p
  | times least _ r => least == 0 || r.nullableAt p

/-- One expression after another, with nothing to be written for an empty one. -/
def followedBy (r s : Regex) : Regex :=
  match r with
  | .empty => s
  | _      => seq r s

/-- What remains of `times least most? r` after a pass, with `least` passes that are still due. -/
def remaining (r : Regex) (least : Nat) (most? : Option Nat) : Regex :=
  match most? with
  | some most => if most ≤ 1 then empty else times least (some (most - 1)) r
  | none      => times least none r

/-- The expressions for what may follow once a character has been read at a place. Where a pass of a
repetition can be empty, all passes that are due can be, so none is due after the one that reads the
character. -/
def step (p : Place) (c : Char) : Regex → List Regex
  | empty    => []
  | set s    => if s.contains c then [empty] else []
  | anchor _ => []
  | seq r s  =>
    let through := (r.step p c).map (·.followedBy s)
    if r.nullableAt p then through ++ s.step p c else through
  | alt r s  => r.step p c ++ s.step p c
  | times least most? r =>
    if most? = some 0 then []
    else
      let due := if r.nullableAt p then 0 else least - 1
      (r.step p c).map (·.followedBy (remaining r due most?))

/-! ### Search -/

/-- The expressions of a list, each of them once. -/
def distinct (rs : List Regex) : List Regex :=
  (rs.foldl (fun (seen, kept) r =>
    if seen.contains r then (seen, kept) else (seen.insert r, r :: kept))
    ((∅ : Std.HashSet Regex), [])).2

/-- Whether a match of `r` begins in the rest of the text, or one of `states` is completed there. -/
def search (r : Regex) (states : List Regex) (before? : Option Char) : List Char → Bool
  | []      => (r :: states).any (·.nullableAt ⟨before?, none⟩)
  | c :: cs =>
    let p : Place := ⟨before?, some c⟩
    let here := r :: states
    here.any (·.nullableAt p) || search r (distinct (here.flatMap (·.step p c))) (some c) cs

/-- Whether the expression matches some part of a text. -/
def isMatch (r : Regex) (text : String) : Bool := search r [] none text.toList

end Regex

end Daybook
