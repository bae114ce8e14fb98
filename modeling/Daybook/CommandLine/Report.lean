import Daybook.CommandLine.Arguments
import Daybook.CommandLine.Error
import Daybook.Json.Printer
import Daybook.Ledger.Source
import Daybook.Report.Document
import Daybook.Report.Text

/-!
# The report command

`report` loads a ledger, resolves a template or an inline query, and prints the subtotal that is asked
for, consolidated if wanted, as text or as a document.
-/

namespace Daybook.CommandLine

/-- What a report selects: a template by name, or a query that is written out. -/
inductive Selection where
  | template (name : String)
  | query (text : String)

/-- What `report` is asked for. -/
structure ReportArgs where
  optionsPath : String
  ledgerPath : String
  selection : Selection
  coefficient : Decimal
  levels : List Level
  aggregation : Aggregation
  first? : Option Date
  last? : Option Date
  includeUndated : Bool
  sorted : Bool
  consolidate : Bool
  currency? : Option String
  asOf? : Option Date
  asJson : Bool
  verbose : Bool

/-! ### Arguments -/

/-- A written name as it appears on the command line. -/
def hyphenated (name : String) : String :=
  String.ofList (name.toList.map fun c => if c = '_' then '-' else c)

/-- The level with a name on the command line. -/
def level? (word : String) : Option Level := Level.all.find? (hyphenated ·.name == word)

/-- The way to combine with a name on the command line. -/
def aggregation? (word : String) : Option Aggregation :=
  Aggregation.all.find? (hyphenated ·.name == word)

/-- The levels in a list that is separated by commas. -/
def levels? (word : String) : Option (List Level) := (word.splitOn ",").mapM level?

def isDate (word : String) : Bool := (Date.parse? word).isSome

def isPath (word : String) : Bool := !word.isEmpty

namespace ReportArgs

def grammar : Grammar where
  options := [
    .valued "config" (some 'c') isPath,
    .valued "ledger" (some 'l') isPath,
    .valued "template" (some 't') fun _ => true,
    .valued "query" (some 'q') fun _ => true,
    { OptionSpec.valued "coefficient" none fun word => (Decimal.parse? word).isSome with
      allowsNegative := true },
    { OptionSpec.valued "by" (some 'b') fun word => (levels? word).isSome with
      repeatable := true },
    .valued "mode" (some 'm') fun word => (aggregation? word).isSome,
    .valued "start" none isDate,
    .valued "end" none isDate,
    .switch "include-undated" none,
    .switch "sorted" none,
    .switch "consolidate" none,
    .valued "reporting" none fun _ => true,
    .valued "as-of" none isDate,
    .switch "json" none,
    .switch "verbose" (some 'v')]
  positionals := 0

/-- What is selected: a template or a query, but not both. -/
def readSelection (g : Given) : Except Stop Selection :=
  match g.value? "template", g.value? "query" with
  | some name, none      => .ok (.template name)
  | none,      some text => .ok (.query text)
  | some _,    some _    => .error (.wrong (.conflict "template" "query"))
  | none,      none      => .error (.wrong (.missing "template"))

/-- Read the words of a call of `report`. -/
def parse (words : List String) : Except Stop ReportArgs := do
  let g ← readWords grammar .empty words
  return {
    optionsPath := ← g.require "config"
    ledgerPath := ← g.require "ledger"
    selection := ← readSelection g
    coefficient := ((g.value? "coefficient").bind Decimal.parse?).getD Decimal.one
    levels := (g.values "by").flatMap fun word => (levels? word).getD []
    aggregation := ((g.value? "mode").bind aggregation?).getD .sum
    first? := (g.value? "start").bind Date.parse?
    last? := (g.value? "end").bind Date.parse?
    includeUndated := g.has "include-undated"
    sorted := g.has "sorted"
    consolidate := g.has "consolidate"
    currency? := g.value? "reporting"
    asOf? := (g.value? "as-of").bind Date.parse?
    asJson := g.has "json"
    verbose := g.has "verbose" }

/-! ### The report that is asked for -/

/-- The range of the report; none if neither end is given. -/
def range? (args : ReportArgs) : Option DateRange :=
  let bounded : Option DateRange := match args.first?, args.last? with
    | some first, some last => some (.between first last)
    | some first, none      => some (.since first)
    | none,       some last => some (.upTo last)
    | none,       none      => none
  if args.includeUndated then bounded.map (·.withUndated) else bounded

def spec (args : ReportArgs) : ReportSpec :=
  ⟨args.levels, args.aggregation, args.range?, if args.sorted then .sorted else .firstSeen, false⟩

/-- An error of the query part, named by what was being done. -/
def named (wrap : QueryError → CommandError) : Fault QueryError → Fault CommandError
  | .overflow operation => .overflow operation
  | .error cause        => .error (wrap cause)

def resolve (A : Arithmetic) (args : ReportArgs) (templates : TemplateTable) :
    Except (Fault CommandError) ResolvedQuery :=
  match args.selection with
  | .template name =>
    (templates.resolve A name args.coefficient args.spec.contributingRange?).mapError
      (named (.template name))
  | .query text =>
    match (readDocument? text : Option QueryExpr) with
    | none => .error (.error .queryNotJson)
    | some expr =>
      match expr.compile with
      | .error cause => .error (.error (.query cause))
      | .ok tree     => (ResolvedQuery.ofTree tree).scaled A args.coefficient

def ofReport : Fault ReportError → Fault CommandError
  | .overflow operation => .overflow operation
  | .error cause        => .error (.report cause)

def ofLedger (path : String) : Fault LedgerError → Fault CommandError
  | .overflow operation => .overflow operation
  | .error cause        => .error (.ledger path cause)

def render [ToJson α] (args : ReportArgs) (a : α) (text : String) : String :=
  if args.asJson then (toJson a).renderPretty ++ "\n" else text

/-- Print the report on the two files that are named. Rates are taken at the given day, or else at the end
of the report, or else today. -/
def run (args : ReportArgs) (files : FileReader) (newIds : IdSource) (today : Date) :
    Except (Fault CommandError) Output := do
  let A := Arithmetic.rounding
  let loaded ← (load files args.optionsPath args.ledgerPath).mapError (.error ∘ .load)
  let query ← args.resolve A loaded.templates
  let ledger ← (Ledger.ofVouchers newIds loaded.vouchers).mapError (ofLedger args.ledgerPath)
  let subtotal ← (report A ledger.source query args.spec).mapError ofReport
  if args.consolidate then
    let currency := args.currency?.getD loaded.options.reportingCurrency
    let asOf := (args.asOf?.or args.last?).getD today
    let consolidated ←
      (Daybook.consolidate A subtotal ⟨currency, loaded.rates.rates, asOf⟩).mapError ofReport
    return ⟨0, args.render consolidated consolidated.renderText⟩
  else return ⟨0, args.render subtotal.root subtotal.root.renderText⟩

end ReportArgs

end Daybook.CommandLine
