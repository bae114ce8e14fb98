import Daybook.Calendar.Date

/-!
# Calendar periods

Reports group vouchers by day, week (Monday to Sunday), month or year. A period is known by its
first day, `Period.startOf`; `Period.endOf` counts from there to the day before the next period. At the ends
of the calendar both stay inside it.
-/

namespace Daybook

/-- The length of a calendar period. -/
inductive Period where
  | day
  | week
  | month
  | year
  deriving DecidableEq

namespace Period

/-- The days of its period before a date. -/
def elapsed : Period → Date → Nat
  | .day,   _ => 0
  | .week,  d => d.daysSinceMonday
  | .month, d => d.day - 1
  | .year,  d => d.daysSinceNewYear

/-- The first day of the period of a date, counted back from the date. -/
def startOf (p : Period) (d : Date) : Date := d.earlier (p.elapsed d)

/-- The day on which the next period begins, counted from the first day of a period, if the calendar goes that
far. -/
def nextStart? : Period → Date → Option Date
  | .day,   start => start.later? 1
  | .week,  start => start.later? 7
  | .month, start => start.monthsLater? 1
  | .year,  start => start.monthsLater? 12

/-- The last day of the period of a date: the one before the next period begins, or the last day of the
calendar. -/
def endOf (p : Period) (d : Date) : Date :=
  ((p.nextStart? (p.startOf d)).bind Date.prev?).getD .last

@[simp] theorem startOf_day (d : Date) : startOf .day d = d := rfl

end Period

end Daybook
