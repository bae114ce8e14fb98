import Daybook.Proofs.Calendar.Period
import Daybook.Report.Consolidation

/-!
# Last days of periods

The last day of a period is counted forward from its first day. From the first Monday of the calendar on, it
is the last of the period's days that the calendar has (`Period.IsEnd`), also where the calendar ends before
the period does. Amounts of a period are then converted on one of its days.

In the days before the first Monday the first day of the calendar stands for a Monday that is missing. A whole
week is counted from it all the same, so the count ends in the week after: see `Period.isEnd_endOf_iff`.
-/

namespace Daybook

namespace Date

variable {d : Date}

/-! ### Going forward -/

/-- Going forward counts days, as far as the calendar goes. -/
lemma dayNumber_later? (d : Date) (n : ℕ) :
    ((d.later? n).getD last).dayNumber = min (d.dayNumber + n) last.dayNumber := by
  induction n generalizing d with
  | zero =>
    have := dayNumber_le (le_last d)
    rw [later?, Option.getD_some]
    omega
  | succ n ih =>
    rw [later?]
    cases hnext : d.next? with
    | none =>
      -- behind the last day there is nothing to count
      rw [eq_last_of_next? hnext, Option.bind_none, Option.getD_none]
      omega
    | some m =>
      have := dayNumber_next hnext
      rw [Option.bind_some, ih]
      omega

/-- One day further on. -/
lemma later?_succ (d : Date) (n : ℕ) : d.later? (n + 1) = (d.later? n).bind next? := by
  induction n generalizing d with
  | zero => cases hnext : d.next? <;> simp [later?, hnext]
  | succ n ih =>
    rw [later?, later?, Option.bind_assoc]
    congr 1
    funext m
    exact ih m

/-- A month after its first day, the month is over. -/
lemma next?_lastOfMonth (d : Date) : d.lastOfMonth.next? = d.firstOfMonth.monthsLater? 1 := by
  have hmonth := d.month_mem
  have hlast : ¬ d.lastOfMonth.day < daysInMonth d.lastOfMonth.year d.lastOfMonth.month :=
    Nat.lt_irrefl _
  have later : d.firstOfMonth.monthsLater? 1 = of? (d.year + (d.month / 12 : ℕ)) (d.month % 12 + 1) 1 := by
    rw [monthsLater?, Nat.min_eq_left (show d.firstOfMonth.day ≤ _ from daysInMonth_pos ..),
      Nat.sub_add_cancel (show 1 ≤ d.firstOfMonth.month from hmonth.1)]
    rfl
  rw [later, next?, if_neg hlast]
  by_cases hbefore : d.month < 12
  · rw [if_pos (show d.lastOfMonth.month < 12 from hbefore), Nat.div_eq_of_lt hbefore,
      Nat.mod_eq_of_lt hbefore, Nat.cast_zero, Int.add_zero]
    rfl
  · have december : d.month = 12 := by omega
    rw [if_neg (show ¬ d.lastOfMonth.month < 12 from hbefore), december]
    rfl

/-- Twelve months after its first day, the year is over. -/
lemma next?_lastOfYear (d : Date) : d.lastOfYear.next? = d.firstOfYear.monthsLater? 12 := by
  have hlast : ¬ d.lastOfYear.day < daysInMonth d.lastOfYear.year d.lastOfYear.month :=
    Nat.lt_irrefl 31
  rw [next?, if_neg hlast, if_neg (show ¬ d.lastOfYear.month < 12 from Nat.lt_irrefl 12), monthsLater?,
    Nat.min_eq_left (show d.firstOfYear.day ≤ _ from daysInMonth_pos ..)]
  show of? (d.year + 1) 1 1 = of? (d.year + ((1 - 1 + 12) / 12 : ℕ)) ((1 - 1 + 12) % 12 + 1) 1
  rfl

/-- The first Monday of the calendar. -/
def firstMonday : Date := ⟨minYear, 1, 5, first.year_mem, first.month_mem, by decide⟩

end Date

namespace Period

variable {p : Period} {a d e : Date}

/-! ### Last days -/

/-- The last day of a period is the one after which the next period begins. -/
lemma endOf_eq (h : e.next? = p.nextStart? (p.startOf d)) : p.endOf d = e := by
  rw [endOf, ← h]
  cases hnext : e.next? with
  | none => rw [Option.bind_none, Option.getD_none, Date.eq_last_of_next? hnext]
  | some n => rw [Option.bind_some, Date.prev?_of_next? hnext, Option.getD_some]

lemma endOf_day (d : Date) : endOf .day d = d := by
  apply endOf_eq
  rw [startOf_day, nextStart?, Date.later?_succ]
  rfl

lemma endOf_month (d : Date) : endOf .month d = d.lastOfMonth := by
  apply endOf_eq
  rw [startOf_month, nextStart?, Date.next?_lastOfMonth]

lemma endOf_year (d : Date) : endOf .year d = d.lastOfYear := by
  apply endOf_eq
  rw [startOf_year, nextStart?, Date.next?_lastOfYear]

/-- The sixth day after the first one of a week, or the last day of the calendar. -/
lemma dayNumber_endOf_week (d : Date) : (endOf .week d).dayNumber
    = min ((startOf .week d).dayNumber + 6) Date.last.dayNumber := by
  have hnext : nextStart? .week (startOf .week d) = ((startOf .week d).later? 6).bind Date.next? :=
    Date.later?_succ _ 6
  have hend : endOf .week d = ((startOf .week d).later? 6).getD .last := by
    cases hlater : (startOf .week d).later? 6 with
    | none =>
      rw [endOf, hnext, hlater]
      rfl
    | some e =>
      apply endOf_eq
      rw [hnext, hlater]
      rfl
  rw [hend, Date.dayNumber_later?]
  rfl

/-- The week of a day begins in the calendar exactly from the first Monday on. -/
lemma monday_le_iff (d : Date) :
    Date.first.dayNumber ≤ 7 * (d.dayNumber / 7) ↔ Date.firstMonday ≤ d := by
  have first : Date.first.dayNumber = -95746130 := by decide +kernel
  have firstMonday : Date.firstMonday.dayNumber = -95746126 := by decide +kernel
  rw [Date.le_iff_dayNumber_le]
  omega

/-- The last day of a period is one of its days. -/
lemma same_endOf (h : p = .week → Date.firstMonday ≤ d) : p.Same d (p.endOf d) := by
  cases p with
  | day =>
    rw [endOf_day]
    exact rfl
  | week =>
    have := Date.dayNumber_le (Date.le_last d)
    have := (monday_le_iff d).2 (h rfl)
    rw [same_week_iff, dayNumber_endOf_week, dayNumber_startOf_week]
    omega
  | month =>
    rw [endOf_month]
    exact ⟨rfl, rfl⟩
  | year =>
    rw [endOf_year]
    exact rfl

/-- None of its days comes after it. -/
lemma le_endOf_of_same (h : p.Same d e) : e ≤ p.endOf d := by
  have hday := e.day_mem
  have hmonth := e.month_mem
  cases p with
  | day =>
    obtain rfl : d = e := h
    rw [endOf_day]
    exact Date.le_refl d
  | week =>
    have := Date.dayNumber_le (Date.le_last e)
    rw [same_week_iff] at h
    rw [Date.le_iff_dayNumber_le, dayNumber_endOf_week, dayNumber_startOf_week]
    omega
  | month =>
    obtain ⟨hyear, hmonth⟩ := h
    have hlast := Date.day_le hyear.symm hmonth.symm
    rw [endOf_month, Date.le_iff, Date.lastOfMonth]
    exact .inr ⟨hyear.symm, .inr ⟨hmonth.symm, hlast⟩⟩
  | year =>
    have hyear : d.year = e.year := h
    have hlast := daysInMonth_le e.year e.month
    rw [endOf_year, Date.le_iff, Date.lastOfYear]
    dsimp only
    omega

/-- The count from the first day on is the same for all days of a period. -/
lemma endOf_startOf (p : Period) (d : Date) : p.endOf (p.startOf d) = p.endOf d := by
  rw [endOf, startOf_eq_iff_same.2 (same_startOf p d)]
  rfl

/-- The last one that the calendar has of the days of a period. -/
structure IsEnd (p : Period) (d e : Date) : Prop where
  le : d ≤ e
  startOf_eq : p.startOf e = p.startOf d
  startOf_next_ne : ∀ n, e.next? = some n → p.startOf n ≠ p.startOf d

/-- Before the first Monday, a week is counted into the one after it. -/
lemma startOf_endOf_ne (h : d < Date.firstMonday) :
    startOf .week (endOf .week d) ≠ startOf .week d := by
  have first : Date.first.dayNumber = -95746130 := by decide +kernel
  have last : Date.last.dayNumber = 95745398 := by decide +kernel
  have before := (monday_le_iff d).not.2 (Date.not_le.2 h)
  have := Date.dayNumber_le (Date.first_le d)
  rw [Ne, startOf_eq_iff_same, same_week_iff, dayNumber_endOf_week, dayNumber_startOf_week]
  omega

/-- From the first Monday of the calendar on, a period ends on the last of its days that the calendar has, and
amounts of the period are converted on a day of it. Before that, it is so for all periods but weeks. -/
theorem isEnd_endOf_iff (p : Period) (d : Date) (position : Consolidation.Position) :
    (p.IsEnd d (p.endOf d) ↔ (p = .week → Date.firstMonday ≤ d)) ∧
      ((∃ e, (position.enter (some (.period p)) (.date (some (p.startOf d)))).date? = some e ∧
        p.startOf e = p.startOf d) ↔ (p = .week → Date.firstMonday ≤ d)) := by
  -- everything hangs on whether the counted day is in the period at all
  have inside : p.startOf (p.endOf d) = p.startOf d ↔ (p = .week → Date.firstMonday ≤ d) := by
    constructor
    · rintro hsame rfl
      by_contra hbefore
      exact startOf_endOf_ne (Date.not_le.1 hbefore) hsame
    · intro h
      exact startOf_eq_iff_same.2 (same_endOf h).symm
  constructor
  · refine ⟨fun h => inside.1 h.startOf_eq, fun h => ⟨?_, inside.2 h, ?_⟩⟩
    · exact le_endOf_of_same ((same_startOf p d).symm.trans (same_startOf p d))
    · intro n hnext hsame
      -- the day after the last one would be a day of the period behind its last one
      have hle := le_endOf_of_same (startOf_eq_iff_same.1 hsame).symm
      exact Date.not_le.2 ((Date.lt_next_iff hnext).2 (Date.le_refl _)) hle
  · rw [← inside, ← endOf_startOf p d]
    constructor
    · rintro ⟨e, hdate, hsame⟩
      cases hdate
      exact hsame
    · intro hsame
      exact ⟨_, rfl, hsame⟩

/-- The calendar begins on a Thursday. The week of that day ends on the Sunday after it, and the count goes on
to the Wednesday of the next week. -/
theorem firstWeek_ends_late :
    ∃ sunday wednesday, Date.of? minYear 1 4 = some sunday ∧ Date.of? minYear 1 7 = some wednesday ∧
      IsEnd .week .first sunday ∧ endOf .week .first = wednesday ∧
      startOf .week (endOf .week .first) ≠ startOf .week .first := by
  refine ⟨⟨minYear, 1, 4, by decide, by decide, by decide⟩, ⟨minYear, 1, 7, by decide, by decide, by decide⟩,
    by decide, by decide, ⟨by decide, by decide +kernel, ?_⟩, by decide +kernel,
    startOf_endOf_ne (by decide)⟩
  intro n hnext
  have monday : some n = some Date.firstMonday := hnext.symm.trans (by decide)
  obtain rfl := Option.some.inj monday
  decide +kernel

/-- The calendar ends on a Monday, and the week of that day with it. -/
example : endOf .week .last = Date.last := by decide +kernel

end Period

end Daybook
