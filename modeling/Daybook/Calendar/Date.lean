/-!
# Dates

A `Date` is a day of the Gregorian calendar, carried back before its introduction, in the years
-262143 to 262142. Dates are ordered by year, month and day; `Date.next?` and `Date.prev?` step to
the neighbours and stop at the ends of the calendar.
-/

namespace Daybook

def isLeapYear (year : Int) : Bool :=
  year % 4 == 0 && (year % 100 != 0 || year % 400 == 0)

def daysInMonth (year : Int) : Nat → Nat
  | 2  => if isLeapYear year then 29 else 28
  | 4  => 30
  | 6  => 30
  | 9  => 30
  | 11 => 30
  | _  => 31

theorem daysInMonth_pos (year : Int) (month : Nat) : 1 ≤ daysInMonth year month := by
  unfold daysInMonth
  repeat' split
  all_goals omega

theorem daysInMonth_le (year : Int) (month : Nat) : daysInMonth year month ≤ 31 := by
  unfold daysInMonth
  repeat' split
  all_goals omega

def minYear : Int := -262143

def maxYear : Int := 262142

/-- A day of the calendar. -/
structure Date where
  year : Int
  month : Nat
  day : Nat
  year_mem : minYear ≤ year ∧ year ≤ maxYear
  month_mem : 1 ≤ month ∧ month ≤ 12
  day_mem : 1 ≤ day ∧ day ≤ daysInMonth year month
  deriving DecidableEq

namespace Date

/-- The date with the given year, month and day, if there is one. -/
def of? (year : Int) (month day : Nat) : Option Date :=
  if h : (minYear ≤ year ∧ year ≤ maxYear) ∧ (1 ≤ month ∧ month ≤ 12) ∧
      (1 ≤ day ∧ day ≤ daysInMonth year month) then
    some ⟨year, month, day, h.1, h.2.1, h.2.2⟩
  else none

def first : Date := ⟨minYear, 1, 1, by decide, by decide, by decide⟩

def last : Date := ⟨maxYear, 12, 31, by decide, by decide, by decide⟩

instance : Inhabited Date := ⟨first⟩

/-! ### Order -/

/-- `a` comes before `b`. -/
protected def lt (a b : Date) : Prop :=
  a.year < b.year ∨ (a.year = b.year ∧
    (a.month < b.month ∨ (a.month = b.month ∧ a.day < b.day)))

/-- `a` does not come after `b`. -/
protected def le (a b : Date) : Prop :=
  a.year < b.year ∨ (a.year = b.year ∧
    (a.month < b.month ∨ (a.month = b.month ∧ a.day ≤ b.day)))

instance : LT Date := ⟨Date.lt⟩
instance : LE Date := ⟨Date.le⟩

instance (a b : Date) : Decidable (a < b) := inferInstanceAs (Decidable (_ ∨ _))
instance (a b : Date) : Decidable (a ≤ b) := inferInstanceAs (Decidable (_ ∨ _))

theorem lt_iff {a b : Date} : a < b ↔ a.year < b.year ∨ (a.year = b.year ∧
    (a.month < b.month ∨ (a.month = b.month ∧ a.day < b.day))) := Iff.rfl

theorem le_iff {a b : Date} : a ≤ b ↔ a.year < b.year ∨ (a.year = b.year ∧
    (a.month < b.month ∨ (a.month = b.month ∧ a.day ≤ b.day))) := Iff.rfl

theorem ext_fields {a b : Date} (hy : a.year = b.year) (hm : a.month = b.month)
    (hd : a.day = b.day) : a = b := by
  cases a; cases b; simp_all

theorem le_refl (a : Date) : a ≤ a := by rw [le_iff]; omega

theorem le_trans {a b c : Date} (hab : a ≤ b) (hbc : b ≤ c) : a ≤ c := by
  rw [le_iff] at *; omega

theorem le_total (a b : Date) : a ≤ b ∨ b ≤ a := by rw [le_iff, le_iff]; omega

theorem le_antisymm {a b : Date} (hab : a ≤ b) (hba : b ≤ a) : a = b := by
  rw [le_iff] at *; exact ext_fields (by omega) (by omega) (by omega)

theorem not_lt {a b : Date} : ¬ a < b ↔ b ≤ a := by rw [lt_iff, le_iff]; omega

theorem not_le {a b : Date} : ¬ a ≤ b ↔ b < a := by rw [lt_iff, le_iff]; omega

def compare (a b : Date) : Ordering :=
  if a < b then .lt else if b < a then .gt else .eq

instance : Ord Date := ⟨compare⟩

instance : Min Date := ⟨fun a b => if a ≤ b then a else b⟩
instance : Max Date := ⟨fun a b => if a ≤ b then b else a⟩

/-! ### Neighbours -/

/-- The first day of the month of a date. -/
def firstOfMonth (d : Date) : Date :=
  { d with day := 1, day_mem := ⟨Nat.le_refl 1, daysInMonth_pos ..⟩ }

/-- The last day of the month of a date. -/
def lastOfMonth (d : Date) : Date :=
  { d with day := daysInMonth d.year d.month, day_mem := ⟨daysInMonth_pos .., Nat.le_refl _⟩ }

/-- The first day of the year of a date. -/
def firstOfYear (d : Date) : Date :=
  ⟨d.year, 1, 1, d.year_mem, by decide, Nat.le_refl 1, daysInMonth_pos ..⟩

/-- The last day of the year of a date. -/
def lastOfYear (d : Date) : Date :=
  ⟨d.year, 12, 31, d.year_mem, by decide, by decide, Nat.le_refl 31⟩

def next? (d : Date) : Option Date :=
  if d.day < daysInMonth d.year d.month then of? d.year d.month (d.day + 1)
  else if d.month < 12 then of? d.year (d.month + 1) 1
  else of? (d.year + 1) 1 1

def prev? (d : Date) : Option Date :=
  if 1 < d.day then of? d.year d.month (d.day - 1)
  else if 1 < d.month then of? d.year (d.month - 1) (daysInMonth d.year (d.month - 1))
  else of? (d.year - 1) 12 31

/-- The date `n` days later, if the calendar goes that far. -/
def later? (d : Date) : Nat → Option Date
  | 0     => some d
  | n + 1 => d.next?.bind (later? · n)

/-- The date `n` days earlier, or the first day of the calendar. -/
def earlier (d : Date) : Nat → Date
  | 0     => d
  | n + 1 =>
    match d.prev? with
    | some e => e.earlier n
    | none   => first

/-- The same day of the month `n` months later, if the calendar goes that far. The last day of the month stands
for a day that the month does not have. -/
def monthsLater? (d : Date) (n : Nat) : Option Date :=
  let months := d.month - 1 + n
  let year := d.year + (months / 12 : Nat)
  let month := months % 12 + 1
  of? year month (min d.day (daysInMonth year month))

/-! ### Counting days -/

/-- The days of a year before one of its months. -/
def daysBeforeMonth (year : Int) : Nat → Nat
  | 0     => 0
  | 1     => 0
  | m + 2 => daysBeforeMonth year (m + 1) + daysInMonth year (m + 1)

/-- The days before a year, counted from the year 1. -/
def daysBeforeYear (year : Int) : Int :=
  365 * (year - 1) + (year - 1) / 4 - (year - 1) / 100 + (year - 1) / 400

/-- The days of its year before a date. -/
def daysSinceNewYear (d : Date) : Nat := daysBeforeMonth d.year d.month + (d.day - 1)

/-- The number of a day; the first of January of the year 1 has number 0. -/
def dayNumber (d : Date) : Int :=
  daysBeforeYear d.year + daysBeforeMonth d.year d.month + (d.day - 1)

/-- The days since the last Monday; the day with number 0 is a Monday. -/
def daysSinceMonday (d : Date) : Nat := (d.dayNumber % 7).toNat

end Date

end Daybook
