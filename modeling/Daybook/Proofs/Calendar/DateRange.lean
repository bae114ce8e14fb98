import Daybook.Calendar.DateRange
import Mathlib

/-!
# Membership in combined date ranges

A voucher is in the common part of two ranges exactly if it is in both (`contains_intersect`). A hull
holds whatever is in one of its ranges (`contains_hull`, `contains_hullAll`). A range is empty if its bounds
are the wrong way round and undated vouchers do not belong to it, which is to say that it holds nothing
(`isEmpty_iff_forall`).
-/

namespace Daybook

namespace DateRange

/-! ### Bounds -/

lemma notBefore_meetStart (d : Date) (a b : Option Date) :
    notBefore d (meetStart a b) = (notBefore d a && notBefore d b) := by
  rcases a with _ | a <;> rcases b with _ | b <;> simp only [meetStart, notBefore, Bool.true_and,
    Bool.and_true]
  have hmax : max a b ≤ d ↔ a ≤ d ∧ b ≤ d := by
    simp only [max]
    split <;> rename_i hab
    · exact ⟨fun h => ⟨Date.le_trans hab h, h⟩, fun h => h.2⟩
    · have hba := (Date.le_total a b).resolve_left hab
      exact ⟨fun h => ⟨h, Date.le_trans hba h⟩, fun h => h.1⟩
  simp [hmax, Bool.decide_and]

lemma notAfter_meetEnd (d : Date) (a b : Option Date) :
    notAfter d (meetEnd a b) = (notAfter d a && notAfter d b) := by
  rcases a with _ | a <;> rcases b with _ | b <;> simp only [meetEnd, notAfter, Bool.true_and,
    Bool.and_true]
  have hmin : d ≤ min a b ↔ d ≤ a ∧ d ≤ b := by
    simp only [min]
    split <;> rename_i hab
    · exact ⟨fun h => ⟨h, Date.le_trans h hab⟩, fun h => h.1⟩
    · have hba := (Date.le_total a b).resolve_left hab
      exact ⟨fun h => ⟨Date.le_trans h hba, h⟩, fun h => h.2⟩
  simp [hmin, Bool.decide_and]

lemma notBefore_hullStart {d : Date} {a b : Option Date}
    (h : notBefore d a = true ∨ notBefore d b = true) : notBefore d (hullStart a b) = true := by
  rcases a with _ | a <;> rcases b with _ | b <;> try rfl
  simp only [notBefore, decide_eq_true_eq] at h
  simp only [hullStart, notBefore, decide_eq_true_eq, min]
  split <;> rename_i hab
  · exact h.elim id (Date.le_trans hab)
  · have hba := (Date.le_total a b).resolve_left hab
    exact h.elim (Date.le_trans hba) id

lemma notAfter_hullEnd {d : Date} {a b : Option Date}
    (h : notAfter d a = true ∨ notAfter d b = true) : notAfter d (hullEnd a b) = true := by
  rcases a with _ | a <;> rcases b with _ | b <;> try rfl
  simp only [notAfter, decide_eq_true_eq] at h
  simp only [hullEnd, notAfter, decide_eq_true_eq, max]
  split <;> rename_i hab
  · exact h.elim (fun h => Date.le_trans h hab) id
  · have hba := (Date.le_total a b).resolve_left hab
    exact h.elim id fun h => Date.le_trans h hba

/-! ### Ranges -/

@[simp] lemma contains_empty (d : Option Date) : empty.contains d = false := by
  cases d with
  | none => rfl
  | some d =>
    rw [empty, contains, Bool.and_eq_false_iff]
    by_cases h : Date.last ≤ d
    · right
      apply decide_eq_false
      intro h'
      exact absurd (Date.le_trans h h') (by decide)
    · left
      simp [notBefore, h]

lemma contains_withUndated {r : DateRange} {d : Option Date} (h : r.contains d = true) :
    r.withUndated.contains d = true := by
  cases d with
  | none => rfl
  | some d => exact h

lemma contains_until_some (d e : Date) :
    (upTo d).withUndated.contains (some e) = decide (e ≤ d) := by
  simp [contains, upTo, withUndated, notBefore, notAfter]

/-- The common part holds what is in both ranges, and nothing else. -/
lemma contains_intersect (r s : DateRange) (d : Option Date) :
    (r.intersect s).contains d = (r.contains d && s.contains d) := by
  simp only [intersect]
  split
  · -- one range is of undated vouchers only, and the other one has none
    rename_i h
    rw [contains_empty]
    cases d with
    | none => cases hr : r.contains none <;> simp_all
    | some d =>
      have only : r.undatedOnly = true ∨ s.undatedOnly = true := by simp_all
      rcases only with h | h <;> simp [contains, h]
  · rename_i h
    cases d with
    | none =>
      simp only [contains, Bool.and_eq_true, Bool.not_eq_true'] at h ⊢
      cases hr : r.undatedOnly <;> cases hs : s.undatedOnly <;> simp_all
    | some d =>
      simp only [contains, notBefore_meetStart, notAfter_meetEnd, Bool.not_or]
      ac_rfl

/-- In a common part, the range of every voucher makes no difference. -/
lemma unconstrained_intersect (r s : DateRange) :
    (unconstrained.intersect r).intersect s = r.intersect s := by
  have normal : unconstrained.intersect r = { r with undated := r.contains none } := by
    cases h : r.undatedOnly <;>
      simp [intersect, contains, unconstrained, meetStart, meetEnd, h]
  have undated : DateRange.contains { r with undated := r.contains none } none = r.contains none := by
    simp [contains]
  rw [normal, intersect, undated]
  rfl

/-- A hull holds what is in one of its ranges. -/
lemma contains_hull {r s : DateRange} {d : Option Date}
    (h : r.contains d = true ∨ s.contains d = true) : (r.hull s).contains d = true := by
  simp only [hull]
  split
  · -- if one range has no days, nothing with a date can be in it
    cases d with
    | none => rfl
    | some d =>
      rename_i only
      exact contains_withUndated (h.resolve_left (by simp [contains, only]))
  · split
    · -- and so the other way round
      cases d with
      | none => rfl
      | some d =>
        rename_i only
        exact contains_withUndated (h.resolve_right (by simp [contains, only]))
    · -- with days in both, bound by bound
      cases d with
      | none => simp_all [contains]
      | some d =>
        simp only [contains, Bool.and_eq_true] at h ⊢
        refine ⟨⟨rfl, notBefore_hullStart ?_⟩, notAfter_hullEnd ?_⟩
        · exact h.imp (·.1.2) (·.1.2)
        · exact h.imp (·.2) (·.2)

lemma contains_foldl_hull {rs : List DateRange} {r : DateRange} {d : Option Date}
    (h : r.contains d = true ∨ ∃ s ∈ rs, s.contains d = true) :
    (rs.foldl hull r).contains d = true := by
  induction rs generalizing r with
  | nil => simpa using h
  | cons s rs ih =>
    apply ih
    rcases h with h | ⟨t, ht, hd⟩
    · exact .inl (contains_hull (.inl h))
    · rcases List.mem_cons.1 ht with rfl | ht
      · exact .inl (contains_hull (.inr hd))
      · exact .inr ⟨t, ht, hd⟩

/-- So does the hull of a list. -/
lemma contains_hullAll {rs : List DateRange} {r : DateRange} {d : Option Date} (hr : r ∈ rs)
    (h : r.contains d = true) : (hullAll rs).contains d = true := by
  cases rs with
  | nil => cases hr
  | cons s rs =>
    rcases List.mem_cons.1 hr with rfl | hr
    · exact contains_foldl_hull (.inl h)
    · exact contains_foldl_hull (.inr ⟨r, hr, h⟩)

lemma contains_foldl_intersect {rs : List DateRange} {r : DateRange} {d : Option Date} :
    (rs.foldl intersect r).contains d = true ↔
      r.contains d = true ∧ ∀ s ∈ rs, s.contains d = true := by
  induction rs generalizing r with
  | nil => simp
  | cons s rs ih => simp [ih, contains_intersect, and_assoc]

/-! ### Empty ranges -/

/-- The range is one of dated vouchers that begins after it ends. -/
def Reversed (r : DateRange) : Prop :=
  r.undatedOnly = false ∧ ∃ s e, r.first? = some s ∧ r.last? = some e ∧ e < s

lemma Reversed.contains_day {r : DateRange} (h : r.Reversed) (d : Date) :
    r.contains (some d) = false := by
  obtain ⟨_, s, e, hs, he, hlt⟩ := h
  by_contra hd
  simp only [contains, hs, he, notBefore, notAfter, Bool.not_eq_false, Bool.and_eq_true,
    decide_eq_true_eq] at hd
  exact Date.not_le.2 hlt (Date.le_trans hd.1.2 hd.2)

/-- A range of dated vouchers has a day, unless its bounds are the wrong way round. -/
lemma exists_day {r : DateRange} (hdated : r.undatedOnly = false) (h : ¬ r.Reversed) :
    ∃ d : Date, r.contains (some d) = true := by
  obtain ⟨first?, last?, undated, undatedOnly⟩ := r
  obtain rfl : undatedOnly = false := hdated
  match first?, last?, h with
  | none,   none,   _ => exact ⟨.first, rfl⟩
  | none,   some e, _ => exact ⟨e, by simp [contains, notBefore, notAfter, Date.le_refl]⟩
  | some s, none,   _ => exact ⟨s, by simp [contains, notBefore, notAfter, Date.le_refl]⟩
  | some s, some e, h =>
    have hle : s ≤ e := Date.not_lt.1 fun hlt => h ⟨rfl, s, e, rfl, rfl, hlt⟩
    exact ⟨s, by simp [contains, notBefore, notAfter, Date.le_refl, hle]⟩

lemma isEmpty_iff {r : DateRange} : r.isEmpty = true ↔ r.Reversed ∧ r.undated = false := by
  obtain ⟨first?, last?, undated, undatedOnly⟩ := r
  cases undatedOnly with
  | true => simp [isEmpty, Reversed]
  | false => cases first? <;> cases last? <;> simp [isEmpty, Reversed]

/-- A range is empty exactly if no voucher belongs to it. -/
lemma isEmpty_iff_forall {r : DateRange} : r.isEmpty = true ↔ ∀ d, r.contains d = false := by
  rw [isEmpty_iff]
  constructor
  · rintro ⟨hreversed, hundated⟩ d
    cases d with
    | none => rw [contains, hundated, hreversed.1, Bool.or_false]
    | some d => exact hreversed.contains_day d
  · intro h
    obtain ⟨hundated, hdated⟩ := Bool.or_eq_false_iff.1 (h none)
    refine ⟨?_, hundated⟩
    by_contra hreversed
    obtain ⟨d, hd⟩ := exists_day hdated hreversed
    exact absurd (h (some d)) (by simp [hd])

/-! ### Laws of membership -/

/-- The common part of two ranges holds what is in both of them, their hull holds what is in one of them, and a
range is empty exactly if it holds nothing. -/
theorem contains_combined (r s : DateRange) (d : Option Date) :
    ((r.intersect s).contains d = true ↔ r.contains d = true ∧ s.contains d = true) ∧
      (r.contains d = true ∨ s.contains d = true → (r.hull s).contains d = true) ∧
      (r.isEmpty = true ↔ ∀ d, r.contains d = false) := by
  refine ⟨?_, contains_hull, isEmpty_iff_forall⟩
  rw [contains_intersect, Bool.and_eq_true]

/-- Undated vouchers are in the hull of undated ones only, though with bounds, and of a range that is the wrong
way round. -/
theorem undated_in_hull :
    (⟨some .first, none, false, true⟩ : DateRange).contains none = true ∧
      (hull ⟨some .first, none, false, true⟩ ⟨some .last, some .first, false, false⟩).contains none
        = true :=
  have inside : (⟨some .first, none, false, true⟩ : DateRange).contains none = true := rfl
  ⟨inside, (contains_combined _ _ none).2.1 (.inl inside)⟩

end DateRange

end Daybook
