import Daybook.Ledger.Error
import Daybook.Report.Spec

/-!
# Errors of reports

A report fails if what is asked for makes no sense, or if the ledger fails while it is read.
-/

namespace Daybook

/-- Why there is no report. -/
inductive ReportError where
  | invalid (cause : SpecError)
  | ledger (cause : LedgerError)
  deriving DecidableEq

def ReportError.message : ReportError → String
  | invalid cause => "invalid subtotal: " ++ cause.message
  | ledger cause  => cause.message

end Daybook
