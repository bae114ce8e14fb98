import Daybook.Rates.Basic
import Daybook.Report.Subtotal

/-!
# Consolidation

A report with a level of currencies can be converted into one currency. Every undivided group is
converted at the rate of the last day of its period, or of a given day if it has none; a divided group
gets the sum of its parts. A group without a rate stays as it is, and so does everything above it.
-/

namespace Daybook

/-- A group that could not be converted. -/
structure Unconverted where
  path : List GroupKey
  currency : String
  date : Date
  cause : RateError

/-- A report in one currency. -/
structure Consolidated where
  subtotal : Subtotal
  currency : String
  grandTotal? : Option Decimal
  unconverted : List Unconverted

def Consolidated.isComplete (c : Consolidated) : Bool := c.unconverted.isEmpty

namespace Consolidation

/-- What a consolidation goes by: the currency that is converted into, the rates, and the day of groups
without date. -/
structure Plan where
  currency : String
  rates : RateSource
  asOf : Date

/-- What the keys on the way to a group say about it. -/
structure Position where
  path : List GroupKey
  currency? : Option String
  date? : Option Date

/-- The position of the root. -/
def Position.root : Position := ⟨[], none, none⟩

/-- The position of a part with a key, which divides at a level. -/
def Position.enter (p : Position) (level? : Option Level) (key : GroupKey) : Position :=
  match key, level? with
  | .currency code, _      => ⟨p.path ++ [key], some code, p.date?⟩
  | .date first?,   some l =>
    let last? := match l.period?, first? with
      | some period, some first => some (period.endOf first)
      | _,           _          => none
    ⟨p.path ++ [key], p.currency?, last?⟩
  | _,              _      => ⟨p.path ++ [key], p.currency?, p.date?⟩

/-- The converted total of an undivided group, or what is missing for it. Without a currency there is only
the total of an empty report. -/
def convertTotal (A : Arithmetic) (plan : Plan) (p : Position) (total : Decimal) :
    Except Overflow (Option Decimal × List Unconverted) :=
  match p.currency? with
  | none => .ok (if total.isZero then some Decimal.zero else none, [])
  | some currency =>
    if currency = plan.currency then .ok (some total, [])
    else
      let date := p.date?.getD plan.asOf
      match plan.rates date currency plan.currency with
      | .ok rate             => do return (some (← A.mul total rate), [])
      | .error (.error e)    => .ok (none, [⟨p.path, currency, date, e⟩])
      | .error (.overflow o) => .error o

/-- The sum of two totals, if both are there. -/
def addTotals (A : Arithmetic) : Option Decimal → Option Decimal → Except Overflow (Option Decimal)
  | some a, some b => do return some (← A.add a b)
  | _,      _      => .ok none

/-- Converted groups, their sum on top of a sum before them, and the groups that have no rate. -/
structure Converted where
  groups : List Group
  sum? : Option Decimal
  unconverted : List Unconverted

mutual

/-- Convert a group at a position; the levels are those that divide it and its parts. -/
def convert (A : Arithmetic) (plan : Plan) (p : Position) (levels : List Level) :
    Group → Except Overflow (Group × List Unconverted)
  | .mk key total _ children entries series? => do
    if children.isEmpty then
      let (converted?, unconverted) ← convertTotal A plan p total
      return (.mk key total converted? [] entries series?, unconverted)
    else
      let parts ← convertAll A plan p levels (some Decimal.zero) children
      return (.mk key total parts.sum? parts.groups entries series?, parts.unconverted)

/-- Convert the parts of a group, and add their totals to a sum. -/
def convertAll (A : Arithmetic) (plan : Plan) (p : Position) (levels : List Level)
    (sum? : Option Decimal) : List Group → Except Overflow Converted
  | []                => .ok ⟨[], sum?, []⟩
  | child :: children => do
    let (child, missing) ← convert A plan (p.enter levels.head? child.key) levels.tail child
    let sum? ← addTotals A sum? child.converted?
    let rest ← convertAll A plan p levels sum? children
    return ⟨child :: rest.groups, rest.sum?, missing ++ rest.unconverted⟩

end

end Consolidation

/-- The report converted into one currency. -/
def consolidate (A : Arithmetic) (s : Subtotal) (plan : Consolidation.Plan) :
    Except (Fault ReportError) Consolidated :=
  if !s.levels.contains .currency then .error (.error (.invalid .noCurrencyLevel))
  else if s.aggregation = .count then .error (.error (.invalid .countedAmounts))
  else do
    let (root, unconverted) ← Consolidation.convert A plan .root s.levels s.root
    return ⟨{ s with root := root }, plan.currency, root.converted?, unconverted⟩

end Daybook
