import Daybook.Calendar.Date
import Mathlib

/-!
# Going from day to day

What comes before the day after a day (`Date.lt_next_iff`), and the numbers of days: the day after has the
next number (`Date.dayNumber_next`), and numbers are in the order of days (`Date.lt_iff_dayNumber_lt`). The
day before a day is the one that the day comes after (`Date.next?_of_prev?`, `Date.prev?_of_next?`).
-/

namespace Daybook

namespace Date

variable {a b d e n : Date}

/-! ### Order -/

lemma lt_trans (hab : a < b) (hbd : b < d) : a < d := by
  rw [lt_iff] at *
  omega

lemma lt_of_le_of_ne (hab : a ≤ b) (hne : a ≠ b) : a < b :=
  not_le.1 fun hba => hne (le_antisymm hab hba)

lemma le_of_lt (hab : a < b) : a ≤ b := by
  rw [lt_iff] at hab
  rw [le_iff]
  omega

lemma lt_of_lt_of_le (hab : a < b) (hbd : b ≤ d) : a < d :=
  not_le.1 fun hda => not_le.2 hab (le_trans hbd hda)

lemma le_iff_lt_or_eq : a ≤ b ↔ a < b ∨ a = b := by
  constructor
  · intro hab
    by_cases h : a = b
    · exact .inr h
    · exact .inl (lt_of_le_of_ne hab h)
  · rintro (hab | rfl)
    · exact le_of_lt hab
    · exact le_refl a

lemma lt_irrefl (a : Date) : ¬ a < a := not_lt.2 (le_refl a)

lemma ne_of_lt (hab : a < b) : a ≠ b := fun h => lt_irrefl b (h ▸ hab)

lemma ne_of_gt (hab : a < b) : b ≠ a := (ne_of_lt hab).symm

/-! ### The day after -/

lemma of?_eq_some {year : ℤ} {month day : ℕ} :
    of? year month day = some d ↔ d.year = year ∧ d.month = month ∧ d.day = day := by
  unfold of?
  constructor
  · intro h
    split at h
    · cases h
      exact ⟨rfl, rfl, rfl⟩
    · cases h
  · rintro ⟨rfl, rfl, rfl⟩
    rw [dif_pos ⟨d.year_mem, d.month_mem, d.day_mem⟩]

lemma of?_eq_none {year : ℤ} {month day : ℕ} : of? year month day = none ↔
    ¬ ((minYear ≤ year ∧ year ≤ maxYear) ∧ (1 ≤ month ∧ month ≤ 12) ∧
      (1 ≤ day ∧ day ≤ daysInMonth year month)) := by
  unfold of?
  split <;> simp_all

/-- A day is in its month. -/
lemma day_le (hyear : e.year = d.year) (hmonth : e.month = d.month) :
    e.day ≤ daysInMonth d.year d.month := by
  rw [← hyear, ← hmonth]
  exact e.day_mem.2

/-- What comes before the day after a day does not come after the day. -/
lemma lt_next_iff (h : d.next? = some n) : e < n ↔ e ≤ d := by
  have hday := e.day_mem
  have hmonth := e.month_mem
  have hlast := @day_le d e
  rw [lt_iff, le_iff]
  unfold next? at h
  split at h
  · obtain ⟨hy, hm, hd⟩ := of?_eq_some.1 h
    omega
  · split at h <;> obtain ⟨hy, hm, hd⟩ := of?_eq_some.1 h <;> omega

/-- Only the last day of the calendar has no day after it. -/
lemma le_of_next?_eq_none (h : d.next? = none) (e : Date) : e ≤ d := by
  have hday := d.day_mem
  have hmonth := d.month_mem
  have hyear := d.year_mem
  have hlast := @day_le d e
  have := e.year_mem
  have := e.month_mem
  rw [le_iff]
  unfold next? at h
  split at h
  · have := of?_eq_none.1 h
    omega
  · split at h
    · have := of?_eq_none.1 h
      have := daysInMonth_pos d.year (d.month + 1)
      omega
    · have := of?_eq_none.1 h
      have := daysInMonth_pos (d.year + 1) 1
      have : minYear ≤ maxYear := by decide
      omega

/-! ### Numbers of days -/

lemma daysBeforeMonth_succ {year : ℤ} {month : ℕ} (h : 1 ≤ month) :
    daysBeforeMonth year (month + 1) = daysBeforeMonth year month + daysInMonth year month := by
  obtain ⟨m, rfl⟩ := Nat.exists_eq_add_of_le' h
  rfl

/-- A year is as long as its months. -/
lemma daysBeforeYear_succ (year : ℤ) :
    daysBeforeYear (year + 1) = daysBeforeYear year + daysBeforeMonth year 13 := by
  have months : daysBeforeMonth year 13 = if isLeapYear year then 366 else 365 := by
    simp only [daysBeforeMonth, daysInMonth]
    split <;> rfl
  rw [months]
  unfold daysBeforeYear isLeapYear
  simp only [Bool.and_eq_true, Bool.or_eq_true, beq_iff_eq, bne_iff_ne]
  split <;> omega

/-- The day after has the next number. -/
lemma dayNumber_next (h : d.next? = some n) : n.dayNumber = d.dayNumber + 1 := by
  have hday := d.day_mem
  have hmonth := d.month_mem
  unfold next? at h
  unfold dayNumber
  split at h
  · -- within the month
    obtain ⟨hy, hm, hd⟩ := of?_eq_some.1 h
    rw [hy, hm, hd]
    omega
  · rename_i hlast
    split at h <;> obtain ⟨hy, hm, hd⟩ := of?_eq_some.1 h <;> rw [hy, hm, hd]
    · -- over the end of the month, which is then counted in full
      rw [daysBeforeMonth_succ hmonth.1]
      omega
    · -- over the end of the year
      have december : d.month = 12 := by omega
      have length : daysBeforeMonth d.year 13 = daysBeforeMonth d.year 12 + daysInMonth d.year 12 := rfl
      rw [december] at hlast hday ⊢
      rw [daysBeforeYear_succ, show daysBeforeMonth (d.year + 1) 1 = 0 from rfl]
      omega

lemma daysBeforeMonth_mono (year : ℤ) : Monotone (daysBeforeMonth year) := by
  apply monotone_nat_of_le_succ
  intro month
  rcases month with _ | month
  · exact le_rfl
  · exact Nat.le_add_right _ _

lemma daysBeforeYear_mono : Monotone daysBeforeYear := by
  apply monotone_int_of_le_succ
  intro year
  rw [daysBeforeYear_succ]
  omega

/-- A day lies in its month, as a part of the year. -/
lemma day_le_daysBeforeMonth (d : Date) :
    daysBeforeMonth d.year d.month + d.day ≤ daysBeforeMonth d.year (d.month + 1) := by
  rw [daysBeforeMonth_succ d.month_mem.1]
  exact Nat.add_le_add_left d.day_mem.2 _

/-- Numbers are in the order of days. -/
lemma dayNumber_lt (h : a < b) : a.dayNumber < b.dayNumber := by
  have inMonth := day_le_daysBeforeMonth a
  have afterStart := b.day_mem.1
  unfold dayNumber
  rcases lt_iff.1 h with hyear | ⟨hyear, hmonth | ⟨hmonth, hday⟩⟩
  · -- in an earlier year: what is left of it comes before all of the later one
    have inYear := daysBeforeMonth_mono a.year (show a.month + 1 ≤ 13 by have := a.month_mem; omega)
    have years := daysBeforeYear_mono (show a.year + 1 ≤ b.year by omega)
    rw [daysBeforeYear_succ] at years
    omega
  · -- in an earlier month of the same year
    have months := daysBeforeMonth_mono a.year (show a.month + 1 ≤ b.month by omega)
    rw [← hyear]
    omega
  · rw [← hyear, ← hmonth]
    omega

lemma dayNumber_le (h : a ≤ b) : a.dayNumber ≤ b.dayNumber := by
  by_cases hba : b ≤ a
  · rw [le_antisymm h hba]
  · exact (dayNumber_lt (not_le.1 hba)).le

lemma lt_iff_dayNumber_lt : a < b ↔ a.dayNumber < b.dayNumber := by
  constructor
  · exact dayNumber_lt
  · intro h
    apply not_le.1
    intro hba
    exact absurd (dayNumber_le hba) (by omega)

lemma le_iff_dayNumber_le : a ≤ b ↔ a.dayNumber ≤ b.dayNumber := by
  rw [← not_lt, lt_iff_dayNumber_lt, Int.not_lt]

lemma dayNumber_injective : Function.Injective dayNumber := by
  intro a b h
  apply le_antisymm
  · exact le_iff_dayNumber_le.2 h.le
  · exact le_iff_dayNumber_le.2 h.ge

/-- The day before the end of a month. -/
def january30 : Date := ⟨2026, 1, 30, by decide, first.month_mem, by decide⟩

/-- The first day of the month after. -/
def february1 : Date := ⟨2026, 2, 1, by decide, by decide, by decide⟩

/-- Two years later. -/
def january2028 : Date := ⟨2028, 1, 30, by decide, first.month_mem, by decide⟩

example : february1.dayNumber = january30.dayNumber + 2 ∧
    january2028.dayNumber = january30.dayNumber + 730 := by decide +kernel

/-! ### The day before -/

/-- The day before has the day as the one after it. -/
lemma next?_of_prev? (h : d.prev? = some e) : e.next? = some d := by
  have hday := d.day_mem
  have hmonth := d.month_mem
  unfold prev? at h
  unfold next?
  split at h
  · obtain ⟨hy, hm, hd⟩ := of?_eq_some.1 h
    rw [hy, hm, hd, if_pos (by omega)]
    exact of?_eq_some.2 ⟨rfl, rfl, by omega⟩
  · split at h <;> obtain ⟨hy, hm, hd⟩ := of?_eq_some.1 h <;> rw [hy, hm, hd]
    · rw [if_neg (Nat.lt_irrefl _), if_pos (by omega)]
      exact of?_eq_some.2 ⟨rfl, by omega, by omega⟩
    · rw [if_neg (show ¬ 31 < daysInMonth (d.year - 1) 12 from Nat.lt_irrefl 31), if_neg (by omega)]
      exact of?_eq_some.2 ⟨by omega, by omega, by omega⟩

/-- The first day of the calendar does not come after any other. -/
lemma first_le (d : Date) : first ≤ d := by
  have hday := d.day_mem
  have hmonth := d.month_mem
  have hyear := d.year_mem
  rw [le_iff]
  show minYear < d.year ∨ (minYear = d.year ∧ (1 < d.month ∨ (1 = d.month ∧ 1 ≤ d.day)))
  omega

/-- Only the first day of the calendar has no day before it. -/
lemma eq_first_of_prev? (h : d.prev? = none) : d = first := by
  have hday := d.day_mem
  have hmonth := d.month_mem
  have hyear := d.year_mem
  unfold prev? at h
  split at h
  · -- not the first day of a month: the day before it is in the same month
    have := of?_eq_none.1 h
    omega
  · split at h
    · -- not January: every month has a last day
      have := of?_eq_none.1 h
      have := daysInMonth_pos d.year (d.month - 1)
      omega
    · -- New Year: only the first year has no year before it
      have := of?_eq_none.1 h
      have : daysInMonth (d.year - 1) 12 = 31 := rfl
      apply ext_fields
      · show d.year = minYear
        omega
      · show d.month = 1
        omega
      · show d.day = 1
        omega

/-! ### Both ends of the calendar -/

/-- The last day of the calendar does not come before any other. -/
lemma le_last (d : Date) : d ≤ last := le_of_next?_eq_none (by decide) d

lemma eq_last_of_next? (h : d.next? = none) : d = last :=
  le_antisymm (le_last d) (le_of_next?_eq_none h last)

/-- The day after has the day as the one before it. -/
lemma prev?_of_next? (h : d.next? = some n) : n.prev? = some d := by
  have hnumber := dayNumber_next h
  cases hprev : n.prev? with
  | none =>
    have := dayNumber_le (first_le d)
    rw [eq_first_of_prev? hprev] at hnumber
    omega
  | some e =>
    have := dayNumber_next (next?_of_prev? hprev)
    have same : e = d := dayNumber_injective (by omega)
    rw [same]

end Date

end Daybook
