import Daybook.Json.Record
import Daybook.Report.Consolidation
import Daybook.Voucher.Json

/-!
# Reports in documents

The specification of a report is a record in which everything may be left out. A report is written with
the parts of a group that are there.
-/

namespace Daybook

/-! ### Specifications -/

instance : ToJson Level := ⟨fun l => .str l.name⟩
instance : FromJson Level := ⟨fun j => j.tag?.bind Level.ofName?⟩
instance : ToJson Aggregation := ⟨fun a => .str a.name⟩
instance : FromJson Aggregation := ⟨fun j => j.tag?.bind Aggregation.ofName?⟩

instance : ToJson GroupOrder where
  toJson
    | .firstSeen => .str "first_seen"
    | .sorted    => .str "sorted"

instance : FromJson GroupOrder where
  fromJson? j :=
    match j.tag? with
    | some "first_seen" => some .firstSeen
    | some "sorted"     => some .sorted
    | _                 => none

instance : ToJson ReportSpec where
  toJson s := .objOf [
    ("levels", some (toJson s.levels)),
    ("aggregation", some (toJson s.aggregation)),
    ("range", s.range?.map toJson),
    ("order", some (toJson s.order)),
    ("itemize", some (toJson s.itemized))]

instance : FromJson ReportSpec where
  fromJson? j := do
    let r ← Record.of? ["levels", "aggregation", "range", "order", "itemize"] j
    some {
      levels := ← r.withDefault "levels" []
      aggregation := ← r.withDefault "aggregation" .sum
      range? := ← r.withDefault "range" none
      order := ← r.withDefault "order" .firstSeen
      itemized := ← r.withDefault "itemize" false }

/-! ### Reports -/

instance : ToJson GroupKey where
  toJson
    | .root             => .null
    | .currency code    => toJson code
    | .account code     => toJson code
    | .subaccount code? => toJson code?
    | .content text?    => toJson text?
    | .remark text?     => toJson text?
    | .owner name?      => toJson name?
    | .kind k           => toJson k
    | .date date?       => toJson date?

instance : ToJson EntryRef where
  toJson e := .obj [
    ("voucher_id", toJson e.voucherId?),
    ("date", toJson e.date?),
    ("detail_index", .nat e.index),
    ("coefficient", toJson e.coefficient)]

instance : ToJson DayPoint where
  toJson p := .obj [("date", toJson p.date), ("cumulative", toJson p.balance)]

instance : ToJson DaySeries where
  toJson s := .obj [("carry_in", toJson s.carryIn), ("points", toJson s.points)]

/-- A list that is left out if it is empty. -/
def Json.ofNonempty : List Json → Option Json
  | []    => none
  | items => some (.arr items)

namespace Group

mutual

def write : Group → Json
  | mk key total converted? children entries series? => .objOf [
    ("key", some (toJson key)),
    ("aggregate", some (toJson total)),
    ("converted", converted?.map toJson),
    ("children", Json.ofNonempty (writeAll children)),
    ("entries", Json.ofNonempty (entries.map toJson)),
    ("series", series?.map toJson)]

def writeAll : List Group → List Json
  | []      => []
  | g :: gs => write g :: writeAll gs

end

end Group

instance : ToJson Group := ⟨Group.write⟩

instance : ToJson Subtotal where
  toJson s := .obj [
    ("levels", toJson s.levels),
    ("aggregation", toJson s.aggregation),
    ("root", toJson s.root)]

instance : ToJson Unconverted where
  toJson u := .obj [
    ("path", toJson u.path),
    ("currency", toJson u.currency),
    ("date", toJson u.date),
    ("error", .str u.cause.message)]

instance : ToJson Consolidated where
  toJson c := .obj [
    ("result", toJson c.subtotal),
    ("reporting_currency", toJson c.currency),
    ("grand_total", toJson c.grandTotal?),
    ("unconverted", toJson c.unconverted)]

end Daybook
