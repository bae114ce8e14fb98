import Daybook.Rates.Basic
import Daybook.Decimal.Division
import Daybook.Json.Record

/-!
# Price tables

A `Quote` is the price of a currency in another on a day. A `PriceTable` keeps the quotes of each currency
by date, those of one day in the order in which they were given, so the last of several quotes is the valid
one. It is made of a list of quotes, which are collected and then sorted (`PriceTable.ofList`), and it takes
in further quotes one by one, at a place that is found by binary search (`PriceTable.insert`).

`PriceTable.rate?` looks for the latest quote on or before a day, then for the inverse of a quote in
the other direction, then for two legs over a third currency: first over the currencies that the
base is quoted in, then over those that are quoted in the base, in the order of the table.
-/

namespace Daybook

/-- The price of a currency in a unit on a day. -/
structure Quote where
  date : Date
  currency : String
  price : Decimal
  unit : String
  deriving DecidableEq

instance : ToJson Quote where
  toJson q := .obj [("date", toJson q.date), ("currency", toJson q.currency),
    ("price", toJson q.price), ("quote", toJson q.unit)]

instance : FromJson Quote where
  fromJson? j := do
    let r ← Record.of? ["date", "currency", "price", "quote"] j
    some {
      date := ← r.required "date"
      currency := ← r.required "currency"
      price := ← r.required "price"
      unit := ← r.required "quote" }

/-! ### Binary search -/

/-- The place between two others where a predicate that holds of the members before it stops holding. Each
step looks at the member in the middle and goes on in one of the halves. -/
def searchEnd (p : α → Bool) (xs : List α) (low high : Nat) : Nat :=
  if low < high then
    let middle := (low + high) / 2
    if xs[middle]?.any p then searchEnd p xs (middle + 1) high else searchEnd p xs low middle
  else low
termination_by high - low

/-- How many members a predicate holds of, if it holds of the first ones only. -/
def partitionPoint (p : α → Bool) (xs : List α) : Nat := searchEnd p xs 0 xs.length

/-! ### Tables -/

/-- Quotes by currency. -/
structure PriceTable where
  lists : List (String × List Quote)

namespace PriceTable

def empty : PriceTable := ⟨[]⟩

/-- Change the list of a currency, or an empty one if there is none. -/
def changeList (currency : String) (change : List Quote → List Quote) :
    List (String × List Quote) → List (String × List Quote)
  | []           => [(currency, change [])]
  | list :: rest =>
    if list.1 = currency then (currency, change list.2) :: rest
    else list :: changeList currency change rest

/-- The quotes of each currency, as they come. -/
def collect (qs : List Quote) : List (String × List Quote) :=
  qs.foldl (fun lists q => changeList q.currency (· ++ [q]) lists) []

/-- Quotes by date. Those of one day stay in order. -/
def sortByDate (qs : List Quote) : List Quote := qs.mergeSort fun q r => q.date ≤ r.date

/-- The table of quotes that are there all at once. -/
def ofList (qs : List Quote) : PriceTable :=
  ⟨(collect qs).map fun list => (list.1, sortByDate list.2)⟩

/-- Insert a quote behind the quotes of its day and the days before. -/
def insertQuote (q : Quote) (qs : List Quote) : List Quote :=
  qs.insertIdx (partitionPoint (·.date ≤ q.date) qs) q

/-- Add a quote to the table. -/
def insert (t : PriceTable) (q : Quote) : PriceTable :=
  ⟨changeList q.currency (insertQuote q) t.lists⟩

def size (t : PriceTable) : Nat := t.lists.foldr (fun list count => list.2.length + count) 0

def isEmpty (t : PriceTable) : Bool := t.lists.isEmpty

/-! ### Latest quotes -/

def quotesOf (t : PriceTable) (currency : String) : List Quote :=
  (t.lists.lookup currency).getD []

/-- The price of the last of the quotes that a condition holds of. -/
def lastPrice? (p : Quote → Bool) (qs : List Quote) : Option Decimal :=
  (qs.reverse.find? p).map (·.price)

/-- The price of the latest quote of a currency in a unit on or before a day. -/
def price? (t : PriceTable) (currency unit : String) (date : Date) : Option Decimal :=
  lastPrice? (fun q => q.date ≤ date && q.unit == unit) (t.quotesOf currency)

/-! ### Rates over a third currency -/

/-- The rate over a third currency, given the rate of the first leg. -/
def secondLeg? (t : PriceTable) (first : Decimal) (via unit : String) (date : Date) :
    Except Overflow (Option Decimal) :=
  match t.price? via unit date with
  | some second => (first.mul second).map some
  | none =>
    match t.price? unit via date with
    | some second => if second.isZero then .ok none else (first.div second).map some
    | none        => .ok none

/-- The first result of a search. -/
def firstFound (search : α → Except Overflow (Option Decimal)) :
    List α → Except Overflow (Option Decimal)
  | []      => .ok none
  | x :: xs => do
    match ← search x with
    | some r => return some r
    | none   => firstFound search xs

/-- The rate over a currency that the base is quoted in. -/
def viaUnit? (t : PriceTable) (base unit : String) (date : Date) (via : String) :
    Except Overflow (Option Decimal) :=
  if via = unit then .ok none
  else match t.price? base via date with
    | some first => t.secondLeg? first via unit date
    | none       => .ok none

/-- The rate over a currency that is quoted in the base, with its list of quotes. The first leg is the inverse
of the latest quote that can be inverted. -/
def viaQuoted? (t : PriceTable) (base unit : String) (date : Date) (via : String × List Quote) :
    Except Overflow (Option Decimal) :=
  match lastPrice? (fun q => q.date ≤ date && q.unit == base && !q.price.isZero) via.2 with
  | some price => do t.secondLeg? (← Decimal.one.div price) via.1 unit date
  | none       => .ok none

/-- The rate over a third currency. -/
def chained? (t : PriceTable) (base unit : String) (date : Date) :
    Except Overflow (Option Decimal) := do
  let units := ((t.quotesOf base).filter fun q => q.date ≤ date).map (·.unit)
  match ← firstFound (t.viaUnit? base unit date) units with
  | some r => return some r
  | none   => firstFound (t.viaQuoted? base unit date) t.lists

/-- What one `base` is worth in `unit` on a day. -/
def rate? (t : PriceTable) (base unit : String) (date : Date) : Except Overflow (Option Decimal) :=
  if base = unit then .ok (some Decimal.one)
  else match t.price? base unit date with
    | some price => .ok (some price)
    | none =>
      match t.price? unit base date with
      | some price =>
        if price.isZero then t.chained? base unit date else (Decimal.one.div price).map some
      | none => t.chained? base unit date

/-- The table as a source of rates. -/
def rates (t : PriceTable) : RateSource := fun date source target => do
  match ← t.rate? source target date with
  | some r => return r
  | none   => .error (.error (.missing source target date))

end PriceTable

end Daybook
