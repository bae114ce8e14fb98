import Daybook.Calendar.Text
import Daybook.Fault

/-!
# Exchange rates

A `RateSource` answers what one unit of a currency is worth in another on a day.
-/

namespace Daybook

/-- Why there is no rate. -/
inductive RateError where
  | missing (source target : String) (date : Date)
  | unavailable (reason : String)
  deriving DecidableEq

def RateError.message : RateError → String
  | .missing source target date =>
    "no rate from " ++ source ++ " to " ++ target ++ " on or before " ++ date.render
  | .unavailable reason => "rate source unavailable: " ++ reason

/-- The rate on a day from one currency to another. -/
abbrev RateSource := Date → String → String → Except (Fault RateError) Decimal

def RateSource.unavailable (reason : String) : RateSource :=
  fun _ _ _ => .error (.error (.unavailable reason))

end Daybook
