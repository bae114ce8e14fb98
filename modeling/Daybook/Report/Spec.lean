import Daybook.Calendar.DateRange
import Daybook.Calendar.Period

/-!
# Report specifications

A `ReportSpec` says by what a report groups, how it combines amounts, and which dates it covers. A
report of running balances needs a span with both ends, see `ReportSpec.span`. It also counts what lies
before the span, so what can contribute to it reaches further back than its range.
-/

namespace Daybook

/-- What a report groups by. -/
inductive Level where
  | currency
  | account
  | subaccount
  | content
  | remark
  | owner
  | kind
  | period (p : Period)
  deriving DecidableEq

namespace Level

def all : List Level :=
  [currency, account, subaccount, content, remark, owner, kind, period .day, period .week,
    period .month, period .year]

def name : Level → String
  | currency      => "currency"
  | account       => "title"
  | subaccount    => "sub_title"
  | content       => "content"
  | remark        => "remark"
  | owner         => "user"
  | kind          => "kind"
  | period .day   => "day"
  | period .week  => "week"
  | period .month => "month"
  | period .year  => "year"

def ofName? (name : String) : Option Level := all.find? (·.name == name)

/-- The calendar period of a level of dates. -/
def period? : Level → Option Period
  | period p => some p
  | _        => none

end Level

/-- How amounts are combined: added up, counted, added up without what comes to zero, or added up day by
day. -/
inductive Aggregation where
  | sum
  | count
  | nonZero
  | everyDay
  deriving DecidableEq

namespace Aggregation

def all : List Aggregation := [sum, count, nonZero, everyDay]

def name : Aggregation → String
  | sum      => "sum"
  | count    => "count"
  | nonZero  => "non_zero"
  | everyDay => "every_day"

def ofName? (name : String) : Option Aggregation := all.find? (·.name == name)

end Aggregation

/-- How the parts of a group are ordered: as they first come up, or by their keys. -/
inductive GroupOrder where
  | firstSeen
  | sorted
  deriving DecidableEq

/-- What to group by and how to combine. -/
structure ReportSpec where
  levels : List Level
  aggregation : Aggregation
  range? : Option DateRange
  order : GroupOrder
  itemized : Bool
  deriving DecidableEq

/-- The plain total. -/
def ReportSpec.default : ReportSpec := ⟨[], .sum, none, .firstSeen, false⟩

/-! ### Errors -/

/-- What may be wrong with a specification. -/
inductive SpecError where
  | noRange
  | openRange
  | reversedRange (first last : Date)
  | groupedByPeriod (p : Period)
  | noCurrencyLevel
  | countedAmounts
  deriving DecidableEq

def Period.title : Period → String
  | .day   => "Day"
  | .week  => "Week"
  | .month => "Month"
  | .year  => "Year"

def SpecError.message : SpecError → String
  | noRange   => "every-day aggregation needs a date range"
  | openRange => "every-day aggregation needs both a start and an end date"
  | reversedRange first last =>
    "every-day range starts after it ends: " ++ first.render ++ " > " ++ last.render
  | groupedByPeriod p => "every-day aggregation cannot be grouped by " ++ p.title
  | noCurrencyLevel   => "consolidation needs a currency grouping level"
  | countedAmounts    => "counts cannot be converted between currencies"

namespace ReportSpec

/-! ### Dates -/

/-- The first and the last day of running balances. -/
def span (spec : ReportSpec) : Except SpecError (Date × Date) :=
  match spec.range? with
  | none => .error .noRange
  | some range =>
    match range.first?, range.last? with
    | some first, some last =>
      if last < first then .error (.reversedRange first last)
      else match spec.levels.findSome? Level.period? with
        | some p => .error (.groupedByPeriod p)
        | none   => .ok (first, last)
    | _, _ => .error .openRange

/-- The days of running balances; none if the report has another form. -/
def span? (spec : ReportSpec) : Except SpecError (Option (Date × Date)) :=
  if spec.aggregation = .everyDay then spec.span.map some else .ok none

/-- The dates that can contribute to the report; none if all can. -/
def contributingRange? (spec : ReportSpec) : Option DateRange :=
  match spec.range?, spec.aggregation with
  | none,       _         => none
  | some range, .everyDay => range.last?.map fun last => (DateRange.upTo last).withUndated
  | some range, _         => some range

/-- The dates that have to be looked at, given those that a query can match. -/
def scanHint (spec : ReportSpec) (queryHint : DateRange) : DateRange :=
  match spec.contributingRange? with
  | some range => queryHint.intersect range
  | none       => queryHint

end ReportSpec

end Daybook
