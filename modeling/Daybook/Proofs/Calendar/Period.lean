import Daybook.Calendar.Period
import Daybook.Proofs.Calendar.Day

/-!
# Days of one period

Two days are in the same period (`Period.Same`) if they are the same day, lie in the same week from Monday to
Sunday, in the same month or in the same year. The first day of a period is the earliest of its days
that the calendar has (`Period.startOf_le_of_same`), so it names the period: `startOf_eq_iff_same`.

In the first week of the calendar the Monday is missing, and the first day of the calendar stands for it.
-/

namespace Daybook

namespace Date

/-! ### Going back -/

/-- Going back counts days, as far as the calendar goes. -/
lemma dayNumber_earlier (d : Date) (n : ℕ) :
    (d.earlier n).dayNumber = max (d.dayNumber - n) first.dayNumber := by
  induction n generalizing d with
  | zero =>
    have := dayNumber_le (first_le d)
    rw [earlier]
    omega
  | succ n ih =>
    rw [earlier]
    cases hprev : d.prev? with
    | none =>
      rw [eq_first_of_prev? hprev]
      show first.dayNumber = _
      omega
    | some e =>
      have hnext := dayNumber_next (next?_of_prev? hprev)
      show (e.earlier n).dayNumber = _
      rw [ih]
      omega

end Date

namespace Period

variable {p : Period} {a b d : Date}

/-! ### First days -/

/-- The number of the first day of a period, as far as the calendar goes. -/
lemma dayNumber_startOf (p : Period) (d : Date) :
    (p.startOf d).dayNumber = max (d.dayNumber - p.elapsed d) Date.first.dayNumber :=
  Date.dayNumber_earlier ..

/-- The Monday of a week, or the first day of the calendar. -/
lemma dayNumber_startOf_week (d : Date) :
    (startOf .week d).dayNumber = max (7 * (d.dayNumber / 7)) Date.first.dayNumber := by
  rw [dayNumber_startOf, elapsed, Date.daysSinceMonday]
  omega

@[simp] lemma startOf_month (d : Date) : startOf .month d = d.firstOfMonth := by
  apply Date.dayNumber_injective
  have inCalendar := Date.dayNumber_le (Date.first_le d.firstOfMonth)
  have afterStart := d.day_mem.1
  rw [dayNumber_startOf, elapsed]
  have counted : d.dayNumber - (d.day - 1 : ℕ) = d.firstOfMonth.dayNumber := by
    simp only [Date.dayNumber, Date.firstOfMonth]
    omega
  omega

@[simp] lemma startOf_year (d : Date) : startOf .year d = d.firstOfYear := by
  apply Date.dayNumber_injective
  have inCalendar := Date.dayNumber_le (Date.first_le d.firstOfYear)
  have afterStart := d.day_mem.1
  rw [dayNumber_startOf, elapsed]
  have counted : d.dayNumber - d.daysSinceNewYear = d.firstOfYear.dayNumber := by
    simp only [Date.dayNumber, Date.daysSinceNewYear, Date.firstOfYear, Date.daysBeforeMonth]
    omega
  omega

/-! ### Days of one period -/

/-- The days are in the same period. Weeks run from a Monday, whose day number seven divides, to the sixth
day after it; the Monday need not be in the calendar. -/
def Same : Period → Date → Date → Prop
  | .day,   a, b => a = b
  | .week,  a, b => ∃ monday : ℤ, 7 ∣ monday ∧
    (monday ≤ a.dayNumber ∧ a.dayNumber ≤ monday + 6) ∧ monday ≤ b.dayNumber ∧ b.dayNumber ≤ monday + 6
  | .month, a, b => a.year = b.year ∧ a.month = b.month
  | .year,  a, b => a.year = b.year

lemma same_week_iff : Same .week a b ↔ a.dayNumber / 7 = b.dayNumber / 7 := by
  constructor
  · rintro ⟨monday, hmonday, ha, hb⟩
    omega
  · intro h
    exact ⟨7 * (a.dayNumber / 7), Dvd.intro _ rfl, by omega, by omega⟩

lemma Same.symm (h : p.Same a b) : p.Same b a := by
  cases p with
  | day => exact Eq.symm h
  | week =>
    obtain ⟨monday, hmonday, ha, hb⟩ := h
    exact ⟨monday, hmonday, hb, ha⟩
  | month => exact ⟨h.1.symm, h.2.symm⟩
  | year => exact Eq.symm h

lemma Same.trans (hab : p.Same a b) (hbd : p.Same b d) : p.Same a d := by
  cases p with
  | day => exact Eq.trans hab hbd
  | week =>
    rw [same_week_iff] at *
    exact hab.trans hbd
  | month => exact ⟨hab.1.trans hbd.1, hab.2.trans hbd.2⟩
  | year => exact Eq.trans hab hbd

/-- A period has no gaps. -/
lemma Same.between (h : p.Same a d) (hab : a ≤ b) (hbd : b ≤ d) : p.Same a b := by
  cases p with
  | day =>
    obtain rfl : a = d := h
    exact Date.le_antisymm hab hbd
  | week =>
    -- weeks are divisions of day numbers, months and years those of the fields of a date
    rw [same_week_iff] at *
    rw [Date.le_iff_dayNumber_le] at hab hbd
    omega
  | month =>
    obtain ⟨hyear, hmonth⟩ := h
    rw [Date.le_iff] at hab hbd
    constructor <;> omega
  | year =>
    have hyear : a.year = d.year := h
    rw [Date.le_iff] at hab hbd
    show a.year = b.year
    omega

/-! ### First days of periods -/

/-- The first day of a period is one of its days. -/
lemma same_startOf (p : Period) (d : Date) : p.Same (p.startOf d) d := by
  cases p with
  | day => exact rfl
  | week =>
    have := Date.dayNumber_le (Date.first_le d)
    rw [same_week_iff, dayNumber_startOf_week]
    omega
  | month =>
    rw [startOf_month]
    exact ⟨rfl, rfl⟩
  | year =>
    rw [startOf_year]
    exact rfl

/-- None of its days comes before it. -/
lemma startOf_le_of_same (h : p.Same a b) : p.startOf a ≤ b := by
  have hday := b.day_mem
  have hmonth := b.month_mem
  cases p with
  | day =>
    obtain rfl : a = b := h
    exact Date.le_refl a
  | week =>
    have := Date.dayNumber_le (Date.first_le b)
    rw [same_week_iff] at h
    rw [Date.le_iff_dayNumber_le, dayNumber_startOf_week]
    omega
  | month =>
    obtain ⟨hyear, hmonth⟩ := h
    rw [Date.le_iff, startOf_month, Date.firstOfMonth]
    exact .inr ⟨hyear, .inr ⟨hmonth, hday.1⟩⟩
  | year =>
    have hyear : a.year = b.year := h
    rw [Date.le_iff, startOf_year, Date.firstOfYear]
    dsimp only
    omega

lemma startOf_le_self (p : Period) (d : Date) : p.startOf d ≤ d :=
  startOf_le_of_same ((same_startOf p d).symm.trans (same_startOf p d))

/-- The first day tells periods apart. -/
lemma startOf_eq_iff_same : p.startOf a = p.startOf b ↔ p.Same a b := by
  constructor
  · intro h
    have hb := same_startOf p b
    rw [← h] at hb
    exact (same_startOf p a).symm.trans hb
  · intro h
    apply Date.le_antisymm
    · exact startOf_le_of_same (h.trans (same_startOf p b).symm)
    · exact startOf_le_of_same (h.symm.trans (same_startOf p a).symm)

/-- First days are in the order of days. -/
lemma startOf_mono (h : a ≤ b) : p.startOf a ≤ p.startOf b := by
  rcases Date.le_total (p.startOf a) (p.startOf b) with hle | hle
  · exact hle
  · -- the first day of the earlier one's period then lies in the period of the later one
    have hsame := (same_startOf p b).between hle (Date.le_trans (startOf_le_self p a) h)
    exact startOf_le_of_same ((same_startOf p a).symm.trans hsame.symm)

/-- First days divide the calendar into periods. The first day of its period does not come after a day, and is
its own first day; first days are in the order of days; and two days have the same one exactly if they are in
the same period. -/
theorem startOf_partition (p : Period) (a b : Date) :
    p.startOf a ≤ a ∧ p.startOf (p.startOf a) = p.startOf a ∧
      (a ≤ b → p.startOf a ≤ p.startOf b) ∧ (p.startOf a = p.startOf b ↔ p.Same a b) := by
  refine ⟨startOf_le_self p a, ?_, startOf_mono, startOf_eq_iff_same⟩
  exact startOf_eq_iff_same.2 (same_startOf p a)

/-- The week of New Year 2025 began on the last Monday of the old year. -/
theorem newYear_week :
    ∃ monday newYear, Date.of? 2024 12 30 = some monday ∧ Date.of? 2025 1 1 = some newYear ∧
      monday ≤ newYear ∧ startOf .week monday ≤ startOf .week newYear ∧
      startOf .week monday = startOf .week newYear ∧ Same .week monday newYear := by
  refine ⟨⟨2024, 12, 30, by decide, by decide, by decide⟩, ⟨2025, 1, 1, by decide, by decide, by decide⟩,
    by decide, by decide, by decide, ?_, by decide, ?_⟩
  · exact (startOf_partition .week _ _).2.2.1 (by decide)
  · exact (startOf_partition .week _ _).2.2.2.1 (by decide)

/-- The tenth of January 2024 is a Wednesday. -/
example : (⟨2024, 1, 10, by decide, by decide, by decide⟩ : Date).daysSinceMonday = 2 := by decide

end Period

end Daybook
