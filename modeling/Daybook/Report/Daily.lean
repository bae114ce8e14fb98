import Daybook.Calendar.Date
import Daybook.Decimal.Arithmetic

/-!
# Running balances

A `DailyTotals` collects amounts for the days of a span. What is dated before the span, or not dated,
is carried into its first day; what is dated after it is left out. A `RunningBalance` goes through the
days one by one, from the first to the last, and tells the balance at the end of each.
-/

namespace Daybook

/-- The balance at the end of a day. -/
structure DayPoint where
  date : Date
  balance : Decimal

/-- The balance brought into a span, and the one at the end of each of its days. -/
structure DaySeries where
  carryIn : Decimal
  points : List DayPoint

/-- Amounts collected by day, in the order of the days. -/
structure DailyTotals where
  first : Date
  last : Date
  carryIn : Decimal
  changes : List (Date × Decimal)

namespace DailyTotals

def empty (first last : Date) : DailyTotals := ⟨first, last, Decimal.zero, []⟩

/-- Add an amount to that of a day. -/
def addChange (A : Arithmetic) (date : Date) (amount : Decimal) :
    List (Date × Decimal) → Except Overflow (List (Date × Decimal))
  | [] => do return [(date, ← A.add Decimal.zero amount)]
  | (d, total) :: rest =>
    if d < date then do return (d, total) :: (← addChange A date amount rest)
    else if d = date then do return (d, ← A.add total amount) :: rest
    else do return (date, ← A.add Decimal.zero amount) :: (d, total) :: rest

/-- Collect an amount. -/
def add (A : Arithmetic) (t : DailyTotals) (date? : Option Date) (amount : Decimal) :
    Except Overflow DailyTotals :=
  match date? with
  | some date =>
    if t.last < date then .ok t
    else if t.first ≤ date then do
      return { t with changes := ← addChange A date amount t.changes }
    else do return { t with carryIn := ← A.add t.carryIn amount }
  | none => do return { t with carryIn := ← A.add t.carryIn amount }

/-- The amount of a day. -/
def change? (t : DailyTotals) (date : Date) : Option Decimal :=
  (t.changes.find? (·.1 == date)).map (·.2)

/-- The balance at the end of the last day. -/
def total (A : Arithmetic) (t : DailyTotals) : Except Overflow Decimal := do
  A.add t.carryIn (← A.sum (t.changes.map (·.2)))

end DailyTotals

/-! ### Going through the days -/

/-- A walk through the days of a span: the next day, if there is one, and the balance before it. -/
structure RunningBalance where
  totals : DailyTotals
  next? : Option Date
  balance : Decimal

/-- A day, unless it comes after the last one. -/
def upToDay (last : Date) : Option Date → Option Date
  | some d => if d ≤ last then some d else none
  | none   => none

namespace RunningBalance

/-- The walk before the first day. -/
def start (t : DailyTotals) : RunningBalance := ⟨t, upToDay t.last (some t.first), t.carryIn⟩

/-- The balance at the end of a day, given the one before it. -/
def balanceAfter (A : Arithmetic) (w : RunningBalance) (date : Date) : Except Overflow Decimal :=
  match w.totals.change? date with
  | some amount => A.add w.balance amount
  | none        => .ok w.balance

/-- The next day with its balance, and the walk after it. -/
def step (A : Arithmetic) (w : RunningBalance) :
    Except Overflow (Option (DayPoint × RunningBalance)) :=
  match w.next? with
  | none      => .ok none
  | some date => do
    let balance ← w.balanceAfter A date
    return some (⟨date, balance⟩, ⟨w.totals, upToDay w.totals.last date.next?, balance⟩)

/-- How many days are left. -/
def length (w : RunningBalance) : Nat :=
  match w.next? with
  | some date => (w.totals.last.dayNumber - date.dayNumber + 1).toNat
  | none      => 0

/-- The days that are left, at most `count` of them. -/
def take (A : Arithmetic) (w : RunningBalance) : Nat → Except Overflow (List DayPoint)
  | 0         => .ok []
  | count + 1 => do
    match ← w.step A with
    | none               => return []
    | some (point, rest) => return point :: (← rest.take A count)

def points (A : Arithmetic) (w : RunningBalance) : Except Overflow (List DayPoint) :=
  w.take A w.length

end RunningBalance

/-- The balance at the end of each day of the span. -/
def DailyTotals.series (A : Arithmetic) (t : DailyTotals) : Except Overflow DaySeries := do
  return ⟨t.carryIn, ← (RunningBalance.start t).points A⟩

end Daybook
