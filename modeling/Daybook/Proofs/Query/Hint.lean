import Daybook.Proofs.Calendar.DateRange
import Daybook.Proofs.Voucher.Balance
import Daybook.Template.Resolution

/-!
# Coarse readings of filters

A filter tree is read in two coarser ways: by the voucher alone (`mayAccept`), and by its date alone
(`dateHint`). Neither refuses a voucher with an accepted entry, see `FilterTree.mayAccept_of_accepts` and
`FilterTree.dateHint_contains`; the same holds of the leaves of a resolved query, and of a query. Both
results are stated once for trees and queries together (`hint_contains_accepted`,
`mayAccept_of_accepted_entry`).
-/

namespace Daybook

namespace FilterTree

/-- The date of a voucher with an accepted entry is in the hint of the tree. -/
lemma dateHint_contains {t : FilterTree} {e : Entry} {v : Voucher} (h : t.accepts e v = true) :
    t.dateHint.contains v.date? = true := by
  match t with
  | .atom c =>
    simp only [accepts, Criteria.accepts, Criteria.acceptsVoucher, Bool.and_eq_true] at h
    simp only [dateHint]
    cases hr : c.range? with
    | none => simp
    | some range => simpa [inRange, hr] using h.2.1
  | .union ts =>
    simp only [accepts, anyAccepts_eq, List.any_eq_true] at h
    obtain ⟨t, ht, ha⟩ := h
    rw [dateHint, dateHints_eq]
    exact DateRange.contains_hullAll (List.mem_map_of_mem ht) (dateHint_contains ha)
  | .intersect ts =>
    -- the hint is the common part of all ranges, from an unconstrained one on
    simp only [accepts, allAccept_eq, List.all_eq_true] at h
    rw [dateHint, dateHints_eq, DateRange.contains_foldl_intersect]
    refine ⟨DateRange.contains_unconstrained _, fun r hr => ?_⟩
    obtain ⟨t, ht, rfl⟩ := List.mem_map.1 hr
    exact dateHint_contains (h t ht)
  | .subtract left right =>
    simp only [accepts, Bool.and_eq_true] at h
    rw [dateHint]
    exact dateHint_contains h.1
  | .complement _ | .forAll _ | .forAllIn _ _ => simp [dateHint]

/-- A voucher with an accepted entry is not refused. -/
lemma mayAccept_of_accepts {t : FilterTree} {e : Entry} {v : Voucher} (he : e ∈ v.entries)
    (h : t.accepts e v = true) : t.mayAccept v = true := by
  match t with
  | .atom c =>
    simp only [accepts, Criteria.accepts, Bool.and_eq_true] at h
    simp only [mayAccept, Bool.and_eq_true, List.any_eq_true]
    exact ⟨h.2, e, he, h.1⟩
  | .union ts =>
    simp only [accepts, anyAccepts_eq, List.any_eq_true] at h
    obtain ⟨t, ht, ha⟩ := h
    simp only [mayAccept, anyMayAccept_eq, List.any_eq_true]
    exact ⟨t, ht, mayAccept_of_accepts he ha⟩
  | .intersect ts =>
    simp only [accepts, allAccept_eq, List.all_eq_true] at h
    simp only [mayAccept, allMayAccept_eq, List.all_eq_true]
    exact fun t ht => mayAccept_of_accepts he (h t ht)
  | .subtract left right =>
    simp only [accepts, Bool.and_eq_true] at h
    rw [mayAccept]
    exact mayAccept_of_accepts he h.1
  | .complement _ | .forAll _ | .forAllIn _ _ => simp [mayAccept]

end FilterTree

namespace ResolvedLeaf

lemma dateHint_contains {leaf : ResolvedLeaf} {e : Entry} {v : Voucher}
    (h : leaf.accepts e v = true) : leaf.dateHint.contains v.date? = true := by
  simp only [accepts, Bool.and_eq_true] at h
  obtain ⟨hrange, htree⟩ := h
  simp only [dateHint]
  cases hr : leaf.range? with
  | none => exact FilterTree.dateHint_contains htree
  | some range =>
    rw [DateRange.contains_intersect, FilterTree.dateHint_contains htree, Bool.true_and]
    simpa [inRange, hr] using hrange

lemma mayAccept_of_accepts {leaf : ResolvedLeaf} {e : Entry} {v : Voucher} (he : e ∈ v.entries)
    (h : leaf.accepts e v = true) : leaf.mayAccept v = true := by
  simp only [accepts, mayAccept, Bool.and_eq_true] at h ⊢
  exact ⟨h.1, FilterTree.mayAccept_of_accepts he h.2⟩

end ResolvedLeaf

lemma ResolvedQuery.dateHint_contains {q : ResolvedQuery} {leaf : ResolvedLeaf} {e : Entry}
    {v : Voucher} (hleaf : leaf ∈ q.leaves) (h : leaf.accepts e v = true) :
    q.dateHint.contains v.date? = true :=
  DateRange.contains_hullAll (List.mem_map_of_mem hleaf) (leaf.dateHint_contains h)

/-! ### Trees and queries together -/

/-- No accepted entry is in a voucher outside of the hint, neither of a tree nor of a query. -/
theorem hint_contains_accepted :
    (∀ (t : FilterTree) (v : Voucher) (e : Entry), t.accepts e v = true →
      t.dateHint.contains v.date? = true) ∧
    ∀ (q : ResolvedQuery) (v : Voucher) (e : Entry),
      (∃ leaf ∈ q.leaves, leaf.accepts e v = true) → q.dateHint.contains v.date? = true := by
  constructor
  · intro t v e h
    exact t.dateHint_contains h
  · rintro q v e ⟨leaf, hleaf, h⟩
    exact q.dateHint_contains hleaf h

/-- A refund without date; one of its amounts is not known yet. -/
def Voucher.refund : Voucher where
  id? := some "refund"
  date? := none
  kind := .ordinary
  remark? := none
  entries := [.plain 6001 (Decimal.of? 5 0), .plain 1001 none]

/-- A late payment, in February. -/
def Voucher.payment : Voucher where
  id? := some "payment"
  date? := some .february1
  kind := .ordinary
  remark? := none
  entries := [.plain 1001 (Decimal.of? (-3) 0)]

/-- What came to cash in January or on no date, in vouchers that took nothing out of it. -/
def FilterTree.earlyIncome : FilterTree :=
  .intersect [
    .union [.during ⟨Date.of? 2026 1 1, Date.of? 2026 1 31, false, false⟩, .during .onlyUndated],
    .subtract (.entries (.onAccount 1001)) (.entries { EntryFilter.any with sign := .negative }),
    .forAllIn (.entries (.onAccount 1001))
      (.complement (.entries { EntryFilter.any with sign := .negative }))]

/-- Early income without date, counted twice. -/
def ResolvedLeaf.undatedIncome : ResolvedLeaf := ⟨.earlyIncome, .two, some .onlyUndated, []⟩

/-- Early income, and that without date twice more. -/
def ResolvedQuery.weighedIncome : ResolvedQuery :=
  ⟨[⟨.earlyIncome, .one, none, []⟩, .undatedIncome]⟩

/-- A sale in January and a refund without date are in the hint; a payment in February is not. -/
theorem payment_outside_of_hint :
    (FilterTree.earlyIncome.accepts (.plain 1001 (Decimal.of? 1250 2)) .sale = true ∧
      FilterTree.earlyIncome.dateHint.contains Voucher.sale.date? = true) ∧
    ((∃ leaf ∈ ResolvedQuery.weighedIncome.leaves,
        leaf.accepts (.plain 1001 none) .refund = true) ∧
      ResolvedQuery.weighedIncome.dateHint.contains Voucher.refund.date? = true) ∧
    FilterTree.earlyIncome.dateHint.contains Voucher.payment.date? = false := by
  have sale : FilterTree.earlyIncome.accepts (.plain 1001 (Decimal.of? 1250 2)) .sale = true := by
    decide
  have refund : ∃ leaf ∈ ResolvedQuery.weighedIncome.leaves,
      leaf.accepts (.plain 1001 none) .refund = true :=
    ⟨_, .tail _ (.head _), by decide⟩
  exact ⟨⟨sale, hint_contains_accepted.1 _ _ _ sale⟩,
    ⟨refund, hint_contains_accepted.2 _ _ _ refund⟩, by decide⟩

/-- No voucher with an accepted entry is refused, neither by a tree nor by a leaf of a query. -/
theorem mayAccept_of_accepted_entry :
    (∀ (t : FilterTree) (v : Voucher), ∀ e ∈ v.entries, t.accepts e v = true →
      t.mayAccept v = true) ∧
    ∀ (leaf : ResolvedLeaf) (v : Voucher), (∃ e ∈ v.entries, leaf.accepts e v = true) →
      leaf.mayAccept v = true := by
  constructor
  · intro t v e he h
    exact t.mayAccept_of_accepts he h
  · rintro leaf v ⟨e, he, h⟩
    exact leaf.mayAccept_of_accepts he h

/-- The sale may have early income, but none without date, which the refund may have; the payment has
neither. -/
theorem payment_refused :
    (Entry.plain 1001 (Decimal.of? 1250 2) ∈ Voucher.sale.entries ∧
      FilterTree.earlyIncome.accepts (.plain 1001 (Decimal.of? 1250 2)) .sale = true ∧
      FilterTree.earlyIncome.mayAccept .sale = true) ∧
    ((∃ e ∈ Voucher.refund.entries, ResolvedLeaf.undatedIncome.accepts e .refund = true) ∧
      ResolvedLeaf.undatedIncome.mayAccept .refund = true) ∧
    FilterTree.earlyIncome.mayAccept .payment = false ∧
    ResolvedLeaf.undatedIncome.mayAccept .sale = false := by
  have entry : Entry.plain 1001 (Decimal.of? 1250 2) ∈ Voucher.sale.entries := .head _
  have sale : FilterTree.earlyIncome.accepts (.plain 1001 (Decimal.of? 1250 2)) .sale = true := by
    decide
  have refund : ∃ e ∈ Voucher.refund.entries, ResolvedLeaf.undatedIncome.accepts e .refund = true :=
    ⟨_, .tail _ (.head _), by decide⟩
  exact ⟨⟨entry, sale, mayAccept_of_accepted_entry.1 _ _ _ entry sale⟩,
    ⟨refund, mayAccept_of_accepted_entry.2 _ _ refund⟩, by decide, by decide⟩

end Daybook
