import Daybook.Proofs.Query.Hint
import Daybook.Proofs.Report.Spec

/-!
# Scans for a report

A ledger is asked for the dates in `ReportSpec.scanHint`, and may leave out vouchers outside of it.
Such a voucher contributes nothing (`Bucket.collectVoucher_outside`), so the report on what the ledger
hands out is the report on all of its vouchers.
-/

namespace Daybook

variable {A : Arithmetic} {query : ResolvedQuery} {spec : ReportSpec} {days? : Option (Date × Date)}

/-- `scanned` is what is left of `all` without some vouchers outside of a range. -/
inductive Pruned (hint : DateRange) : List Voucher → List Voucher → Prop where
  | nil : Pruned hint [] []
  | keep (v : Voucher) {all scanned : List Voucher} (h : Pruned hint all scanned) :
      Pruned hint (v :: all) (v :: scanned)
  | drop (v : Voucher) {all scanned : List Voucher} (hv : hint.contains v.date? = false)
      (h : Pruned hint all scanned) : Pruned hint (v :: all) scanned

namespace Pruned

variable {hint : DateRange}

lemma refl (all : List Voucher) : Pruned hint all all := by
  induction all with
  | nil => exact .nil
  | cons v all ih => exact .keep v ih

lemma filter (all : List Voucher) : Pruned hint all (all.filter fun v => hint.contains v.date?) := by
  induction all with
  | nil => exact .nil
  | cons v all ih =>
    rw [List.filter_cons]
    split <;> rename_i hv
    · exact .keep v ih
    · exact .drop v (by simpa using hv) ih

lemma append (scanned : List Voucher) {outside : List Voucher}
    (h : ∀ v ∈ outside, hint.contains v.date? = false) :
    Pruned hint (scanned ++ outside) scanned := by
  induction scanned with
  | nil =>
    induction outside with
    | nil => exact .nil
    | cons v outside ih =>
      obtain ⟨hv, h⟩ := List.forall_mem_cons.1 h
      exact .drop v hv (ih h)
  | cons v scanned ih => exact .keep v ih

end Pruned

/-! ### What is outside contributes nothing -/

lemma ResolvedQuery.mem_select {v : Voucher} {s : Selected} (h : s ∈ query.select v) :
    s.leaf ∈ query.leaves ∧ s.leaf.accepts s.entry v = true := by
  simp only [select, List.mem_flatMap, List.mem_filter, List.mem_map] at h
  obtain ⟨leaf, ⟨hleaf, _⟩, ⟨e, i⟩, ⟨_, ha⟩, rfl⟩ := h
  exact ⟨hleaf, ha⟩

/-- No entry is selected from a voucher outside of the query's hint. -/
lemma ResolvedQuery.select_eq_nil {v : Voucher} (h : query.dateHint.contains v.date? = false) :
    query.select v = [] := by
  rw [List.eq_nil_iff_forall_not_mem]
  intro s hs
  obtain ⟨hleaf, ha⟩ := mem_select hs
  rw [dateHint_contains hleaf ha] at h
  cases h

/-- A voucher outside of the hint leaves the groups as they are. -/
lemma Bucket.collectVoucher_outside (hdays : spec.span? = .ok days?) (root : Bucket) {v : Voucher}
    (hv : (spec.scanHint query.dateHint).contains v.date? = false) :
    root.collectVoucher A spec days? query v = .ok root := by
  unfold collectVoucher
  split <;> rename_i hcovers
  · -- the range of the report takes the voucher in, so it is the query that does not
    have outside : query.dateHint.contains v.date? = false := by
      unfold ReportSpec.scanHint at hv
      cases hr : spec.contributingRange? with
      | none => simpa [hr] using hv
      | some range =>
        have inside : range.contains v.date? = true := by
          simpa [ReportSpec.covers_eq hdays, inRange, hr] using hcovers
        simpa [hr, DateRange.contains_intersect, inside] using hv
    rw [ResolvedQuery.select_eq_nil outside]
    rfl
  · rfl

/-- So does a scan that leaves such vouchers out. -/
lemma Bucket.collectStream_pruned (hdays : spec.span? = .ok days?) (root : Bucket)
    {all scanned : List Voucher} (h : Pruned (spec.scanHint query.dateHint) all scanned) :
    root.collectStream A spec days? query (scanned.map .ok)
      = root.collectStream A spec days? query (all.map .ok) := by
  induction h generalizing root with
  | nil => rfl
  | keep v h ih =>
    simp only [List.map_cons, collectStream]
    cases root.collectVoucher A spec days? query v with
    | error o => rfl
    | ok root => exact ih root
  | drop v hv h ih =>
    simp only [List.map_cons, collectStream, collectVoucher_outside hdays root hv]
    exact ih root

/-! ### Reports on a ledger -/

lemma report_eq_subtotal_of_scan {source : VoucherSource} {all scanned : List Voucher}
    (hscan : source (spec.scanHint query.dateHint) = .ok (scanned.map .ok))
    (h : Pruned (spec.scanHint query.dateHint) all scanned) :
    report A source query spec = subtotal A (all.map .ok) query spec := by
  unfold report subtotal
  cases hdays : spec.span? with
  | error e => rfl
  | ok days? => simp only [hscan, Bucket.collectStream_pruned hdays _ h]

/-- Whatever vouchers outside of the hint a ledger leaves out, its report is the report on all of them:
the same groups, the same error, or the same overflow. So it is for a ledger that ignores the hint, and
for one that hands out the vouchers in it and no others. -/
theorem report_eq_subtotal_of_pruned (A : Arithmetic) (query : ResolvedQuery) (spec : ReportSpec)
    (all : List Voucher) :
    (∀ (source : VoucherSource) (scanned : List Voucher),
      source (spec.scanHint query.dateHint) = .ok (scanned.map .ok) →
      Pruned (spec.scanHint query.dateHint) all scanned →
      report A source query spec = subtotal A (all.map .ok) query spec) ∧
    report A (fun _ => .ok (all.map .ok)) query spec = subtotal A (all.map .ok) query spec ∧
    report A (fun hint => .ok ((all.filter fun v => hint.contains v.date?).map .ok)) query spec
      = subtotal A (all.map .ok) query spec := by
  refine ⟨fun source scanned hscan h => report_eq_subtotal_of_scan hscan h, ?_, ?_⟩
  · exact report_eq_subtotal_of_scan rfl (Pruned.refl all)
  · exact report_eq_subtotal_of_scan rfl (Pruned.filter all)

/-- By account, for January. -/
def januarySum : ReportSpec where
  levels := [.account]
  aggregation := .sum
  range? := some ⟨Date.of? 2026 1 1, Date.of? 2026 1 31, false, false⟩
  order := .firstSeen
  itemized := false

/-- A report for January does not miss a payment in February that is left out. -/
theorem januarySum_without_payment :
    Pruned (januarySum.scanHint (ResolvedQuery.ofTree .all).dateHint) [.sale, .payment] [.sale] ∧
    report .rounding (fun _ => .ok [.ok Voucher.sale]) (.ofTree .all) januarySum
      = subtotal .rounding [.ok Voucher.sale, .ok Voucher.payment] (.ofTree .all) januarySum := by
  have pruned : Pruned (januarySum.scanHint (ResolvedQuery.ofTree .all).dateHint)
      [.sale, .payment] [.sale] := .keep _ (.drop _ rfl .nil)
  exact ⟨pruned, (report_eq_subtotal_of_pruned .rounding (.ofTree .all) januarySum
    [.sale, .payment]).1 (fun _ => .ok [.ok Voucher.sale]) [.sale] rfl pruned⟩

end Daybook
