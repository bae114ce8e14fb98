import Daybook.Report.Daily
import Daybook.Report.Key

/-!
# Trees of groups

A report is a tree of groups: the root holds everything, and each level below divides a group by a key.
While entries come in, a `Bucket` collects what belongs to a group. `Bucket.finish` turns the tree of
buckets into the tree of `Group`s that is reported.
-/

namespace Daybook

/-- An entry that a report lists. -/
structure EntryRef where
  voucherId? : Option String
  date? : Option Date
  index : Nat
  coefficient : Decimal
  deriving DecidableEq

/-! ### Groups -/

/-- A group of a report. The converted total is there after a consolidation, the series for running
balances. -/
inductive Group where
  | mk (key : GroupKey) (total : Decimal) (converted? : Option Decimal) (children : List Group)
    (entries : List EntryRef) (series? : Option DaySeries)

namespace Group

/-- What the group is divided by. -/
def key : Group → GroupKey
  | mk key _ _ _ _ _ => key

def total : Group → Decimal
  | mk _ total _ _ _ _ => total

/-- The combined amount in the reporting currency. -/
def converted? : Group → Option Decimal
  | mk _ _ converted? _ _ _ => converted?

def children : Group → List Group
  | mk _ _ _ children _ _ => children

/-- The entries that are listed with the group. -/
def entries : Group → List EntryRef
  | mk _ _ _ _ entries _ => entries

/-- The running balance. -/
def series? : Group → Option DaySeries
  | mk _ _ _ _ _ series? => series?

def isLeaf (g : Group) : Bool := g.children.isEmpty

def child? (g : Group) (key : GroupKey) : Option Group := g.children.find? (·.key == key)

/-- The group at the end of a path of keys. -/
def descend? (g : Group) (path : List GroupKey) : Option Group := path.foldlM child? g

mutual

/-- The undivided groups with their paths from this group's own key on, depth first. -/
def leaves : Group → List (List GroupKey × Group)
  | mk key total converted? children entries series? =>
    if children.isEmpty then [([key], mk key total converted? children entries series?)]
    else (leavesOfAll children).map fun (path, leaf) => (key :: path, leaf)

/-- The undivided groups of several groups. -/
def leavesOfAll : List Group → List (List GroupKey × Group)
  | []      => []
  | g :: gs => leaves g ++ leavesOfAll gs

end

/-- Parts that take the place of their group on a stack take less room than it did. -/
theorem sizeOf_children_append_lt (g : Group) (stack : List Group) :
    sizeOf (g.children ++ stack) < sizeOf (g :: stack) := by
  obtain ⟨key, total, converted?, parts, entries, series?⟩ := g
  have append : sizeOf (parts ++ stack) ≤ sizeOf parts + sizeOf stack := by
    induction parts with
    | nil => simp
    | cons part parts ih =>
      simp only [List.cons_append, List.cons.sizeOf_spec]
      omega
  simp only [children, List.cons.sizeOf_spec, mk.sizeOf_spec]
  omega

/-- The undivided groups as they come off a stack of groups: a divided one makes room for its parts, the first
of them on top. -/
def drain : List Group → List Group
  | []         => []
  | g :: stack => if g.isLeaf then g :: drain stack else drain (g.children ++ stack)
termination_by stack => sizeOf stack
decreasing_by
  · simp only [List.cons.sizeOf_spec]
    omega
  · exact g.sizeOf_children_append_lt stack

/-- The places that decide whether a total counts as zero. -/
def zeroPlaces : Nat := 8

mutual

/-- The group without the groups below it whose totals come to zero. -/
def prune : Group → Group
  | mk key total converted? children entries series? =>
    mk key total converted? (pruneAll children) entries series?

/-- The groups whose totals do not come to zero, pruned. -/
def pruneAll : List Group → List Group
  | []      => []
  | g :: gs => if g.total.vanishesAt zeroPlaces then pruneAll gs else prune g :: pruneAll gs

end

end Group

/-! ### Buckets -/

/-- What a bucket has collected: a total, or totals by day. -/
inductive Tally where
  | total (amount : Decimal)
  | daily (totals : DailyTotals)

namespace Tally

/-- Nothing collected yet, for running balances over a span if one is given. -/
def empty : Option (Date × Date) → Tally
  | none               => total Decimal.zero
  | some (first, last) => daily (.empty first last)

/-- Collect the amount of a voucher with a date. -/
def add (A : Arithmetic) (date? : Option Date) (amount : Decimal) : Tally → Except Overflow Tally
  | total sum    => do return total (← A.add sum amount)
  | daily totals => do return daily (← totals.add A date? amount)

end Tally

/-- A group that still takes in entries. -/
inductive Bucket where
  | mk (key : GroupKey) (tally : Tally) (entries : List EntryRef) (children : List Bucket)

namespace Bucket

/-- What the bucket is for. -/
def key : Bucket → GroupKey
  | mk key _ _ _ => key

def empty (span? : Option (Date × Date)) (key : GroupKey) : Bucket := mk key (.empty span?) [] []

/-- Change the bucket with a key, or a new one if there is none. -/
def updateChild (span? : Option (Date × Date)) (key : GroupKey)
    (change : Bucket → Except Overflow Bucket) : List Bucket → Except Overflow (List Bucket)
  | []      => do return [← change (empty span? key)]
  | b :: bs =>
    if b.key = key then do return (← change b) :: bs
    else do return b :: (← updateChild span? key change bs)

/-- Take in an amount, here and in the buckets along a path; the last one keeps the entry. -/
def insert (A : Arithmetic) (span? : Option (Date × Date)) (date? : Option Date) (amount : Decimal)
    (listed? : Option EntryRef) : List GroupKey → Bucket → Except Overflow Bucket
  | [], mk key tally entries children => do
    return mk key (← tally.add A date? amount) (entries ++ listed?.toList) children
  | next :: path, mk key tally entries children => do
    let tally ← tally.add A date? amount
    let children ← updateChild span? next (insert A span? date? amount listed? path) children
    return mk key tally entries children

/-- Groups in the order that is asked for. -/
def arrange (order : GroupOrder) (groups : List Group) : List Group :=
  match order with
  | .firstSeen => groups
  | .sorted    => groups.mergeSort fun a b => a.key.le b.key

/-- The total and, for an undivided group, the running balance. -/
def conclude (A : Arithmetic) (isLeaf : Bool) : Tally → Except Overflow (Decimal × Option DaySeries)
  | .total sum    => .ok (sum, none)
  | .daily totals => do
    let series? ← if isLeaf then some <$> totals.series A else pure none
    return (← totals.total A, series?)

mutual

def finish (A : Arithmetic) (order : GroupOrder) : Bucket → Except Overflow Group
  | mk key tally entries children => do
    let groups ← finishAll A order children
    let (total, series?) ← conclude A groups.isEmpty tally
    return .mk key total none (arrange order groups) entries series?

def finishAll (A : Arithmetic) (order : GroupOrder) : List Bucket → Except Overflow (List Group)
  | []      => .ok []
  | b :: bs => do return (← finish A order b) :: (← finishAll A order bs)

end

end Bucket

end Daybook
