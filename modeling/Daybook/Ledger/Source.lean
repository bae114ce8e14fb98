import Daybook.Ledger.Basic
import Daybook.Report.Subtotal

/-!
# Ledgers as sources of reports

A ledger hands out exactly the vouchers of the range that it is asked for, and never fails.
-/

namespace Daybook

/-- The ledger as a source of vouchers. -/
def Ledger.source (l : Ledger) : VoucherSource := fun range => .ok ((l.scan range).map .ok)

end Daybook
