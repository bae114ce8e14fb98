import Daybook.Json.Reader
import Daybook.Options
import Daybook.Voucher.Json

/-!
# Files

A ledger lives in two files: the options, and a list of vouchers. Reading goes from one to the other and
stops at the first that cannot be used. What a path leads to is a parameter, `FileReader`.
-/

namespace Daybook

/-- The text of a file, or why it cannot be read. -/
abbrev FileReader := String → Except String String

/-- Why a ledger cannot be loaded. -/
inductive LoadError where
  | unreadable (path reason : String)
  | notJson (path : String)
  | templates (path : String) (cause : QueryError)
  deriving DecidableEq

/-- The wording of an error and of its cause. -/
def LoadError.messages : LoadError → List String
  | unreadable path reason => ["failed to read file " ++ path ++ ": " ++ reason, reason]
  | notJson path           => ["invalid JSON in " ++ path]
  | templates path cause   => ["invalid templates in " ++ path ++ ": " ++ cause.message, cause.message]

/-- What two files hold. -/
structure Loaded where
  options : Options
  templates : TemplateTable
  rates : PriceTable
  vouchers : List Voucher

/-- The value in a document that is a file of its own. -/
def readDocument? [FromJson α] (text : String) : Option α := (Json.parse? text).bind fromJson?

def readFile [FromJson α] (files : FileReader) (path : String) : Except LoadError α :=
  match files path with
  | .error reason => .error (.unreadable path reason)
  | .ok text =>
    match readDocument? text with
    | some a => .ok a
    | none   => .error (.notJson path)

def loadOptions (files : FileReader) (path : String) : Except LoadError Options := readFile files path

def loadVouchers (files : FileReader) (path : String) : Except LoadError (List Voucher) :=
  readFile files path

/-- The options with their tables, and the vouchers. -/
def load (files : FileReader) (optionsPath ledgerPath : String) : Except LoadError Loaded := do
  let options ← loadOptions files optionsPath
  let templates ← match options.templateTable with
    | .ok table    => .ok table
    | .error cause => .error (.templates optionsPath cause)
  let vouchers ← loadVouchers files ledgerPath
  return ⟨options, templates, options.priceTable, vouchers⟩

end Daybook
