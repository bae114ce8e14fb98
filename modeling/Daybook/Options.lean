import Daybook.Rates.PriceTable
import Daybook.Template.Document
import Daybook.Template.Table

/-!
# Options

The settings of a ledger: its base currency, the currency of consolidated reports, the templates and the
prices. Everything has a default, but a field that is not known makes a document unreadable.
-/

namespace Daybook

/-- The settings of a ledger. -/
structure Options where
  baseCurrency : String
  reportingCurrency? : Option String
  templates : List TemplateSpec
  prices : List Quote

namespace Options

/-- The settings of an empty document. -/
def default : Options := ⟨Daybook.baseCurrency, none, [], []⟩

/-- Whether nothing is set. -/
def isDefault (o : Options) : Bool :=
  o.baseCurrency == Daybook.baseCurrency && o.reportingCurrency?.isNone && o.templates.isEmpty
    && o.prices.isEmpty

/-- The currency of consolidated reports: the base currency, unless another one is set. -/
def reportingCurrency (o : Options) : String := o.reportingCurrency?.getD o.baseCurrency

def templateTable (o : Options) : Except QueryError TemplateTable :=
  TemplateTable.ofSpecs o.templates

def priceTable (o : Options) : PriceTable := PriceTable.ofList o.prices

/-- The fields of the settings in order. -/
def fieldNames : List String := ["base_currency", "reporting_currency", "templates", "prices"]

/-- Whether a document has no other fields than the known ones. -/
def onlyKnownFields : Json → Bool
  | .obj members => members.all fun (name, _) => fieldNames.contains name
  | _            => true

end Options

instance : ToJson Options where
  toJson o := .objOf [
    ("base_currency", some (toJson o.baseCurrency)),
    ("reporting_currency", o.reportingCurrency?.map toJson),
    ("templates", some (toJson o.templates)),
    ("prices", some (toJson o.prices))]

instance : FromJson Options where
  fromJson? j := do
    let r ← if Options.onlyKnownFields j then Record.of? Options.fieldNames j else none
    some {
      baseCurrency := ← r.withDefault "base_currency" baseCurrency
      reportingCurrency? := ← r.withDefault "reporting_currency" none
      templates := ← r.withDefault "templates" []
      prices := ← r.withDefault "prices" [] }

end Daybook
