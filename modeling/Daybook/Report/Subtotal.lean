import Daybook.Fault
import Daybook.Report.Error
import Daybook.Report.Tree
import Daybook.Template.Resolution

/-!
# Subtotals

`subtotal` goes once through a stream of vouchers, finds the entries that belong to a query, and puts
their amounts into the groups of a report. `report` does so with the vouchers that a ledger gives for the
dates that can matter.

A stream may break off: its first error is the answer then.
-/

namespace Daybook

/-- A report: its form and its tree of groups. -/
structure Subtotal where
  levels : List Level
  aggregation : Aggregation
  root : Group

/-- Vouchers as a ledger hands them out. -/
abbrev VoucherStream := List (Except LedgerError Voucher)

/-- A ledger, seen as what it hands out for a range of dates. It may hand out more than that. -/
abbrev VoucherSource := DateRange → Except LedgerError VoucherStream

/-! ### Entries of a report -/

/-- Whether a report looks at vouchers with a date. -/
def ReportSpec.covers (spec : ReportSpec) (span? : Option (Date × Date)) (date? : Option Date) : Bool :=
  match span? with
  | some (_, last) => !date?.any (last < ·)
  | none           => inRange spec.range? date?

/-- An entry that belongs to a leaf of the query. -/
structure Selected where
  leaf : ResolvedLeaf
  index : Nat
  entry : Entry

/-- The entries of a voucher that belong to a query, leaf by leaf. -/
def ResolvedQuery.select (q : ResolvedQuery) (v : Voucher) : List Selected :=
  (q.leaves.filter (·.mayAccept v)).flatMap fun leaf =>
    (v.entries.zipIdx.filter fun (e, _) => leaf.accepts e v).map fun (e, i) => ⟨leaf, i, e⟩

namespace Selected

def amount (A : Arithmetic) (aggregation : Aggregation) (s : Selected) : Except Overflow Decimal :=
  if aggregation = .count then .ok s.leaf.coefficient
  else A.mul s.entry.amount s.leaf.coefficient

/-- The keys of an entry's groups, outermost first. -/
def path (levels : List Level) (v : Voucher) (s : Selected) : List GroupKey :=
  levels.map (·.key s.entry v)

def reference (v : Voucher) (s : Selected) : EntryRef :=
  ⟨v.id?, v.date?, s.index, s.leaf.coefficient⟩

end Selected

/-! ### Grouping -/

/-- Put a selected entry into its groups. -/
def Bucket.collect (A : Arithmetic) (spec : ReportSpec) (span? : Option (Date × Date)) (v : Voucher)
    (root : Bucket) (s : Selected) : Except Overflow Bucket := do
  let amount ← s.amount A spec.aggregation
  let listed? := if spec.itemized then some (s.reference v) else none
  root.insert A span? v.date? amount listed? (s.path spec.levels v)

/-- Put the entries of a voucher that belong to a query into their groups. -/
def Bucket.collectVoucher (A : Arithmetic) (spec : ReportSpec) (span? : Option (Date × Date))
    (query : ResolvedQuery) (root : Bucket) (v : Voucher) : Except Overflow Bucket :=
  if spec.covers span? v.date? then (query.select v).foldlM (collect A spec span? v) root
  else .ok root

/-- Put the entries of a stream that belong to a query into their groups. -/
def Bucket.collectStream (A : Arithmetic) (spec : ReportSpec) (span? : Option (Date × Date))
    (query : ResolvedQuery) (root : Bucket) : VoucherStream → Except (Fault ReportError) Bucket
  | []              => .ok root
  | .error e :: _   => .error (.error (.ledger e))
  | .ok v :: stream => do
    let root ← root.collectVoucher A spec span? query v
    root.collectStream A spec span? query stream

def ReportSpec.finish (A : Arithmetic) (spec : ReportSpec) (root : Bucket) :
    Except Overflow Subtotal := do
  let root ← root.finish A spec.order
  return {
    levels := spec.levels
    aggregation := spec.aggregation
    root := if spec.aggregation = .nonZero then root.prune else root }

/-- The report on a stream of vouchers. -/
def subtotal (A : Arithmetic) (stream : VoucherStream) (query : ResolvedQuery) (spec : ReportSpec) :
    Except (Fault ReportError) Subtotal :=
  match spec.span? with
  | .error e  => .error (.error (.invalid e))
  | .ok span? => do
    let root ← (Bucket.empty span? .root).collectStream A spec span? query stream
    spec.finish A root

/-- The report on a ledger, which is asked only for dates that can matter. -/
def report (A : Arithmetic) (source : VoucherSource) (query : ResolvedQuery) (spec : ReportSpec) :
    Except (Fault ReportError) Subtotal :=
  match spec.span? with
  | .error e => .error (.error (.invalid e))
  | .ok _    =>
    match source (spec.scanHint query.dateHint) with
    | .error e   => .error (.error (.ledger e))
    | .ok stream => subtotal A stream query spec

end Daybook
