import Daybook.Files
import Daybook.Report.Error

/-!
# Errors of commands

What can go wrong once a command runs. An error is reported on one line, from what was being done to why
it failed.
-/

namespace Daybook.CommandLine

/-- Why a command fails. -/
inductive CommandError where
  | load (cause : LoadError)
  | template (name : String) (cause : QueryError)
  | queryNotJson
  | query (cause : QueryError)
  | ledger (path : String) (cause : LedgerError)
  | report (cause : ReportError)

namespace CommandError

/-- The wordings from the outermost to the innermost cause. -/
def messages : CommandError → List String
  | load cause          => cause.messages
  | template name cause => ["failed to resolve template '" ++ name ++ "'", cause.message]
  | queryNotJson        => ["invalid query expression"]
  | query cause         => ["invalid query expression", cause.message]
  | ledger path cause   => ["ledger " ++ path ++ " has invalid vouchers", cause.message]
  | report cause        => [cause.message]

def render (e : CommandError) : String := "error: " ++ String.intercalate ": " e.messages ++ "\n"

end CommandError

/-- What a command that ran prints, and its exit code. -/
structure Output where
  exitCode : Nat
  text : String
  deriving DecidableEq

end Daybook.CommandLine
