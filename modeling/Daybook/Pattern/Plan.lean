import Daybook.Pattern.Tree

/-!
# Plans

A `Plan` is a pattern in a normal form, from which its compiled form is laid out. Neighbouring literal
characters are one text, rows stand in no other rows and alternatives in no other alternatives, and
alternatives of single characters are a set. What all alternatives begin with is taken out in front.
-/

namespace Daybook.Pattern

open Unicode (CodeSet)

/-- A pattern in normal form. Sets are given by their ranges. -/
inductive Plan where
  | empty
  | text (cs : List Char)
  | set (ranges : List (Nat × Nat))
  | anchor (a : Anchor)
  | seq (ps : List Plan)
  | alt (ps : List Plan)
  | times (p : Plan) (least : Nat) (most? : Option Nat)
  | group (number : Nat) (p : Plan)

namespace Plan

/-! ### Equality -/

mutual

def same : Plan → Plan → Bool
  | empty,               empty               => true
  | text cs,             text ds             => cs == ds
  | set ranges,          set others          => ranges == others
  | anchor a,            anchor b            => a == b
  | seq ps,              seq qs              => sameAll ps qs
  | alt ps,              alt qs              => sameAll ps qs
  | times p least most?, times q fewest many? => p.same q && least == fewest && most? == many?
  | group m p,           group n q           => m == n && p.same q
  | _,                   _                   => false

/-- Whether two lists of plans are the same. -/
def sameAll : List Plan → List Plan → Bool
  | [],      []      => true
  | p :: ps, q :: qs => p.same q && sameAll ps qs
  | _,       _       => false

end

/-! ### Lengths of matches -/

mutual

/-- Whether nothing but the empty text can match. -/
def readsNothing : Plan → Bool
  | empty       => true
  | text _      => false
  | set _       => false
  | anchor _    => true
  | seq ps      => readNothing ps
  | alt ps      => readNothing ps
  | times p _ _ => p.readsNothing
  | group _ p   => p.readsNothing

/-- Whether nothing but the empty text can match any of the plans. -/
def readNothing : List Plan → Bool
  | []      => true
  | p :: ps => p.readsNothing && readNothing ps

end

mutual

/-- The least number of characters in a match; none if a part cannot match at all. -/
def leastLength? : Plan → Option Nat
  | empty           => some 0
  | text cs         => some cs.length
  | set ranges      => if ranges.isEmpty then none else some 1
  | anchor _        => some 0
  | seq ps          => (leastLengths? ps).map (·.foldl (· + ·) 0)
  | alt ps          => (leastLengths? ps).map fun ns => ns.min?.getD 0
  | times p least _ => p.leastLength?.map (· * least)
  | group _ p       => p.leastLength?

/-- The least numbers of characters in matches of several plans. -/
def leastLengths? : List Plan → Option (List Nat)
  | []      => some []
  | p :: ps => p.leastLength?.bind fun n => (leastLengths? ps).map (n :: ·)

end

/-! ### Beginnings -/

mutual

/-- Whether a match has to begin where the text does. -/
def isAnchored : Plan → Bool
  | empty           => false
  | text _          => false
  | set _           => false
  | anchor a        => a == .textStart
  | seq ps          => isRowAnchored ps
  | alt ps          => areAnchored ps
  | times p least _ => least != 0 && p.isAnchored
  | group _ p       => p.isAnchored

/-- Whether a row has an anchor before all that reads characters. -/
def isRowAnchored : List Plan → Bool
  | []      => false
  | p :: ps => p.isAnchored || (p.readsNothing && isRowAnchored ps)

/-- Whether all of several plans have to match at the beginning. -/
def areAnchored : List Plan → Bool
  | []      => true
  | p :: ps => p.isAnchored && areAnchored ps

end

/-! ### Construction -/

/-- A set; a single character is a text. -/
def ofRanges : List (Nat × Nat) → Plan
  | [(low, high)] => if low = high then text [Char.ofNat low] else set [(low, high)]
  | ranges        => set ranges

def pieces : Plan → List Plan
  | empty  => []
  | seq ps => ps
  | p      => [p]

/-- Put a plan before others. -/
def before : Plan → List Plan → List Plan
  | text cs, text ds :: ps => text (cs ++ ds) :: ps
  | p,       ps            => p :: ps

def concat (ps : List Plan) : Plan :=
  match (ps.flatMap pieces).foldr before [] with
  | []  => empty
  | [p] => p
  | ps  => seq ps

/-- The plans between which there is a choice. -/
def alternatives : Plan → List Plan
  | alt ps => ps
  | p      => [p]

/-- The code point of a text of one character. -/
def codePoint? : Plan → Option Nat
  | text [c] => some c.toNat
  | _        => none

def ranges? : Plan → Option (List (Nat × Nat))
  | set ranges => some ranges
  | _          => none

/-- The ranges of alternatives that are all single characters, or all sets. -/
def commonRanges? (ps : List Plan) : Option (List (Nat × Nat)) :=
  match ps.mapM codePoint? with
  | some points => some ((CodeSet.ofPoints points).ranges 0x10FFFF)
  | none =>
    (ps.mapM ranges?).map fun sets =>
      ((sets.map CodeSet.ofRanges).foldl CodeSet.union CodeSet.empty).ranges 0x10FFFF

/-- A choice between alternatives that have no common beginning. -/
def choice (ps : List Plan) : Plan :=
  match ps.flatMap alternatives with
  | []  => set []
  | [p] => p
  | ps  =>
    match commonRanges? ps with
    | some ranges => ofRanges ranges
    | none        => alt ps

/-- What two rows both begin with. -/
def commonBeginning : List Plan → List Plan → List Plan
  | p :: ps, q :: qs => if p.same q then p :: commonBeginning ps qs else []
  | _,       _       => []

/-- The parts of a row of several parts. -/
def row : Plan → List Plan
  | seq ps => ps
  | _      => []

/-- What all alternatives begin with. -/
def sharedBeginning : List Plan → List Plan
  | []      => []
  | p :: ps => ps.foldl (fun shared q => commonBeginning shared q.row) p.row

/-- A choice between alternatives. Once the common beginning is taken out of them, what remains has
none. -/
def alternation (ps : List Plan) : Plan :=
  let flat := ps.flatMap alternatives
  match flat, sharedBeginning flat with
  | _ :: _ :: _, shared@(_ :: _) =>
    concat (shared ++ [choice (flat.map fun p => concat (p.row.drop shared.length))])
  | _, _ => choice flat

/-- A repetition. Where nothing is read, further passes make no difference. -/
def repeated (p : Plan) (least : Nat) (most? : Option Nat) : Plan :=
  let least := if p.readsNothing then min least 1 else least
  let most? := if p.readsNothing then some (min (most?.getD 1) 1) else most?
  match least, most? with
  | 0, some 0 => empty
  | 1, some 1 => p
  | _, _      => times p least most?

mutual

/-- The normal form of a tree. -/
def ofTree : Tree → Plan
  | .empty               => empty
  | .set s               => ofRanges s.toRanges
  | .anchor a            => anchor a
  | .seq ts              => concat (ofTrees ts)
  | .alt ts              => alternation (ofTrees ts)
  | .times t least most? => (ofTree t).repeated least most?
  | .group number t      => group number (ofTree t)

def ofTrees : List Tree → List Plan
  | []      => []
  | t :: ts => ofTree t :: ofTrees ts

end

/-! ### Reading backwards -/

def flipAnchor : Anchor → Anchor
  | .textStart => .textEnd
  | .textEnd   => .textStart
  | a          => a

mutual

/-- The plan for texts that are read backwards. -/
def reversed : Plan → Plan
  | empty               => empty
  | text cs             => text cs.reverse
  | set ranges          => set ranges
  | anchor a            => anchor (flipAnchor a)
  | seq ps              => seq (reversedAll ps).reverse
  | alt ps              => alt (reversedAll ps)
  | times p least most? => times p.reversed least most?
  | group number p      => group number p.reversed

/-- The plans for texts that are read backwards. -/
def reversedAll : List Plan → List Plan
  | []      => []
  | p :: ps => p.reversed :: reversedAll ps

end

end Plan

end Daybook.Pattern
