/-!
# Errors of ledgers

A ledger may be out of reach, which can pass, or refuse a voucher, which cannot.
-/

namespace Daybook

/-- Why a ledger did not do what it was asked for. -/
inductive LedgerError where
  | unavailable (reason : String)
  | rejected (messages : List String)
  deriving DecidableEq

namespace LedgerError

def message : LedgerError → String
  | unavailable reason => "store unavailable: " ++ reason
  | rejected messages  => "voucher rejected: " ++ String.intercalate "; " messages

/-- Whether it may help to try again. -/
def isRetryable : LedgerError → Bool
  | unavailable _ => true
  | rejected _    => false

end LedgerError

end Daybook
