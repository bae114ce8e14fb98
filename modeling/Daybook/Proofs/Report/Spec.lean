import Daybook.Report.Subtotal
import Daybook.Proofs.Calendar.DateRange

/-!
# Dates of a report

When a specification of running balances is valid (`ReportSpec.span_eq_ok`), and which dates a report
looks at: those in its contributing range (`ReportSpec.covers_eq`).
-/

namespace Daybook

namespace ReportSpec

variable {spec : ReportSpec}

lemma findSome?_period?_eq_none {levels : List Level} :
    levels.findSome? Level.period? = none ↔ ∀ l ∈ levels, l.period? = none :=
  List.findSome?_eq_none_iff

/-- A span needs a range with both ends in order, and no levels of dates. -/
lemma span_eq_ok {first last : Date} :
    spec.span = .ok (first, last) ↔ ∃ range, spec.range? = some range ∧
      range.first? = some first ∧ range.last? = some last ∧ first ≤ last ∧
      ∀ l ∈ spec.levels, l.period? = none := by
  unfold span
  constructor
  · intro h
    split at h
    · cases h
    · rename_i range hrange
      split at h
      · rename_i hfirst hlast
        split at h
        · cases h
        · rename_i horder
          split at h
          · cases h
          · rename_i hlevels
            cases h
            exact ⟨range, hrange, hfirst, hlast, Date.not_lt.1 horder,
              findSome?_period?_eq_none.1 hlevels⟩
      · cases h
  · rintro ⟨range, hrange, hfirst, hlast, horder, hlevels⟩
    simp [hrange, hfirst, hlast, Date.not_lt.2 horder, findSome?_period?_eq_none.2 hlevels]

/-- The days of running balances are those of a valid span; other reports have none. -/
lemma span?_eq_ok {days? : Option (Date × Date)} :
    spec.span? = .ok days? ↔
      (spec.aggregation = .everyDay ∧ ∃ days, spec.span = .ok days ∧ days? = some days) ∨
      (spec.aggregation ≠ .everyDay ∧ days? = none) := by
  unfold span?
  by_cases h : spec.aggregation = .everyDay
  · cases hs : spec.span <;> simp [h, Except.map, eq_comm]
  · simp [h, eq_comm]

/-- Such days begin before they end. -/
lemma le_of_span? {days? : Option (Date × Date)} (h : spec.span? = .ok days?) :
    ∀ first last, days? = some (first, last) → first ≤ last := by
  rintro first last rfl
  rcases span?_eq_ok.1 h with ⟨_, _, hspan, hdays⟩ | ⟨_, hdays⟩
  · cases hdays
    obtain ⟨_, _, _, _, horder, _⟩ := span_eq_ok.1 hspan
    exact horder
  · cases hdays

lemma contributingRange?_of_ne (h : spec.aggregation ≠ .everyDay) :
    spec.contributingRange? = spec.range? := by
  unfold contributingRange?
  split <;> simp_all

lemma contributingRange?_of_span {first last : Date} (h : spec.aggregation = .everyDay)
    (hspan : spec.span = .ok (first, last)) :
    spec.contributingRange? = some (DateRange.upTo last).withUndated := by
  obtain ⟨range, hrange, _, hlast, _⟩ := span_eq_ok.1 hspan
  simp [contributingRange?, hrange, h, hlast]

/-- A report looks at the dates in its contributing range. -/
lemma covers_eq {days? : Option (Date × Date)} (hdays : spec.span? = .ok days?)
    (date? : Option Date) : spec.covers days? date? = inRange spec.contributingRange? date? := by
  rcases span?_eq_ok.1 hdays with ⟨hdaily, ⟨first, last⟩, hspan, rfl⟩ | ⟨hsum, rfl⟩
  · -- a report of running balances looks at everything up to its last day
    rw [contributingRange?_of_span hdaily hspan]
    cases date? with
    | none => rfl
    | some d => simp [covers, inRange, DateRange.contains_until_some, ← Date.not_lt]
  · rw [contributingRange?_of_ne hsum]
    rfl

end ReportSpec

end Daybook
