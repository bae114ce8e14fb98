/-!
# Tables of code points

A property of characters is tabulated by runs. A `Partition` gives every code point a label, a
`CodeSet` is a set of code points; both are looked up by bisection.
-/

namespace Daybook

namespace Unicode

/-! ### Bisection -/

/-- How many members of an ascending array are at most `n`, if it is between `low` and `high`. -/
def countFrom (bounds : Array Nat) (n low high : Nat) : Nat :=
  if low < high then
    if bounds.getD ((low + high) / 2) 0 ≤ n then countFrom bounds n ((low + high) / 2 + 1) high
    else countFrom bounds n low ((low + high) / 2)
  else low
termination_by high - low

/-- How many members of an ascending array are at most `n`. -/
def countAtMost (bounds : Array Nat) (n : Nat) : Nat := countFrom bounds n 0 bounds.size

/-! ### Partitions -/

/-- Runs of code points with one label each, by their first code points. -/
structure Partition where
  starts : Array Nat
  labels : Array String

namespace Partition

/-- Cut an entry into the length of a run and its label. -/
def readRun (text : String) : Nat × String :=
  let cs := text.toList
  (Nat.ofDigitChars 10 (cs.takeWhile Char.isDigit) 0, String.ofList (cs.dropWhile Char.isDigit))

/-- Add a run behind those of a partition that ends before `start`. -/
def push (p : Partition) (start : Nat) (label : String) : Partition :=
  ⟨p.starts.push start, p.labels.push label⟩

/-- Read a list of runs, each a length with a label. -/
def ofText (text : String) : Partition :=
  ((text.splitOn " ").foldl (fun (p, start) entry =>
    let (length, label) := readRun entry
    (p.push start label, start + length)) (⟨#[], #[]⟩, 0)).1

def labelOf (p : Partition) (n : Nat) : String := p.labels.getD (countAtMost p.starts n - 1) ""

end Partition

/-! ### Sets -/

/-- A set of code points, by the ascending points where membership changes. -/
structure CodeSet where
  changes : Array Nat

namespace CodeSet

def empty : CodeSet := ⟨#[]⟩

def all : CodeSet := ⟨#[0]⟩

/-- Whether a code point is in the set: membership has changed an odd number of times. -/
def contains (s : CodeSet) (n : Nat) : Bool := countAtMost s.changes n % 2 == 1

/-- Let membership change at a point that no change lies behind. Two changes at a point are none. -/
def toggle (s : CodeSet) (n : Nat) : CodeSet :=
  if s.changes.back? = some n then ⟨s.changes.pop⟩ else ⟨s.changes.push n⟩

/-- Add a range that lies behind all members. -/
def addRange (s : CodeSet) (low high : Nat) : CodeSet := (s.toggle low).toggle (high + 1)

/-- Read the lengths of the stretches outside and inside of a set, in turn. -/
def ofText (text : String) : CodeSet :=
  ⟨((text.splitOn " ").foldl (fun (changes, start) entry =>
    let start := start + entry.toNat?.getD 0
    (changes.push start, start)) (#[], 0)).1⟩

/-- The set of ascending ranges that lie apart. -/
def ofRanges (ranges : List (Nat × Nat)) : CodeSet :=
  ranges.foldl (fun s (low, high) => s.addRange low high) empty

/-- Pair the beginnings of ranges with the last members; the last range may be open. -/
def pairUp (last : Nat) : List Nat → List (Nat × Nat)
  | low :: high :: rest => (low, high - 1) :: pairUp last rest
  | [low]               => [(low, last)]
  | []                  => []

/-- The ranges of the set, up to a last code point. -/
def ranges (s : CodeSet) (last : Nat) : List (Nat × Nat) := pairUp last s.changes.toList

/-! ### Operations on sets -/

/-- A point where one of two sets changes. -/
structure Change where
  point : Nat
  inFirst : Bool

/-- The points where one of two sets changes, in ascending order. -/
def allChanges (a b : CodeSet) : List Change :=
  List.merge (a.changes.toList.map (⟨·, true⟩)) (b.changes.toList.map (⟨·, false⟩))
    fun x y => x.point ≤ y.point

/-- What is known of a combination of two sets up to some point: the combination, and whether each of
the two sets holds that point. -/
structure Combination where
  set : CodeSet
  inFirst : Bool
  inSecond : Bool

/-- Let one of the sets change. -/
def Combination.step (op : Bool → Bool → Bool) (c : Combination) (change : Change) :
    Combination :=
  let inFirst := c.inFirst != change.inFirst
  let inSecond := c.inSecond == change.inFirst
  ⟨if op inFirst inSecond = op c.inFirst c.inSecond then c.set else c.set.toggle change.point,
    inFirst, inSecond⟩

/-- The set of the code points whose memberships in two sets satisfy `op`, which does not hold of two
absences. -/
def combine (op : Bool → Bool → Bool) (a b : CodeSet) : CodeSet :=
  ((allChanges a b).foldl (Combination.step op) ⟨empty, false, false⟩).set

/-- The members of one set or the other. -/
def union (a b : CodeSet) : CodeSet := combine (fun x y => x || y) a b

def inter (a b : CodeSet) : CodeSet := combine (fun x y => x && y) a b

/-- The members of the first set that the second one lacks. -/
def minus (a b : CodeSet) : CodeSet := combine (fun x y => x && !y) a b

def complement (a : CodeSet) : CodeSet := minus all a

/-- The set of some code points in any order. -/
def ofPoints (points : List Nat) : CodeSet :=
  ofRanges (points.mergeSort.eraseReps.map fun n => (n, n))

example : ((ofRanges [(3, 4), (9, 9)]).union (ofPoints [6, 5, 6])).changes = #[3, 7, 9, 10] := by
  cbv

end CodeSet

/-- The code points that have one of the given labels. -/
def Partition.select (p : Partition) (labels : List String) : CodeSet :=
  ((p.starts.zip p.labels).foldl (fun (s, inside) (start, label) =>
    let chosen := labels.contains label
    (if chosen = inside then s else CodeSet.toggle s start, chosen)) (CodeSet.empty, false)).1

end Unicode

end Daybook
