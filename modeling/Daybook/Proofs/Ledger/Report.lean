import Daybook.Ledger.Source
import Daybook.Proofs.Ledger.Content
import Daybook.Proofs.Report.Contributions
import Daybook.Proofs.Report.Refinement
import Daybook.Proofs.Report.SameValues
import Daybook.Proofs.Report.Scan

/-!
# Reports on a ledger

A ledger made of vouchers fills in ids, hands out the vouchers in another order, and leaves out those
whose dates cannot matter. None of this changes the values of a sorted report: it is the report on the
latest vouchers (`report_of_ofVouchers`).
-/

namespace Daybook

open Voucher Ledger

variable {A : Arithmetic} {query : ResolvedQuery} {spec : ReportSpec} {days? : Option (Date × Date)}
  {us vs ws : List Voucher}

/-! ### Queries do not ask for ids -/

lemma FilterTree.accepts_of_id (t : FilterTree) (e : Entry) (v : Voucher) (id? : Option String) :
    t.accepts e { v with id? := id? } = t.accepts e v := by
  match t with
  | .atom c => rfl
  | .union ts =>
    simp only [accepts, anyAccepts_eq]
    rw [Bool.eq_iff_iff, List.any_eq_true, List.any_eq_true]
    exact exists_congr fun t => and_congr_right fun ht => by rw [t.accepts_of_id e v id?]
  | .intersect ts =>
    simp only [accepts, allAccept_eq]
    rw [Bool.eq_iff_iff, List.all_eq_true, List.all_eq_true]
    exact forall₂_congr fun t ht => by rw [t.accepts_of_id e v id?]
  | .subtract left right =>
    rw [accepts, accepts, left.accepts_of_id e v id?, right.accepts_of_id e v id?]
  | .complement t => rw [accepts, accepts, t.accepts_of_id e v id?]
  | .forAll predicate =>
    simp only [accepts]
    congr 1
    funext e
    exact predicate.accepts_of_id e v id?
  | .forAllIn domain predicate =>
    simp only [accepts]
    congr 1
    funext e
    rw [domain.accepts_of_id e v id?, predicate.accepts_of_id e v id?]

/-- The same entries of a voucher are accepted under another id. -/
lemma ResolvedQuery.accepted_of_id (q : ResolvedQuery) (v : Voucher) (id? : Option String) :
    q.accepted { v with id? := id? } = (q.select v).map (Contribution.mk { v with id? := id? }) := by
  have hselect : q.accepted { v with id? := id? }
      = (q.accepted v).map fun c => ⟨{ v with id? := id? }, c.selected⟩ := by
    have leaf : ∀ (leaf : ResolvedLeaf) (e : Entry),
        leaf.accepts e { v with id? := id? } = leaf.accepts e v := by
      intro leaf e
      rw [ResolvedLeaf.accepts, ResolvedLeaf.accepts, FilterTree.accepts_of_id]
    simp only [accepted, leaf, List.map_flatMap, List.map_map]
    rfl
  rw [hselect, ← q.map_select v, List.map_map]
  rfl

/-- Without listings, a report makes nothing of ids. -/
lemma postings_of_filledIn (unlisted : spec.itemized = false) (h : List.Forall₂ FilledIn vs ws) :
    postings A query spec ws = postings A query spec vs := by
  induction h with
  | nil => rfl
  | @cons v w vs ws hv _ ih =>
    obtain ⟨id, rfl, _⟩ := hv
    have same : (query.accepted { v with id? := some id }).mapM (·.posting A spec)
        = (query.accepted v).mapM (·.posting A spec) := by
      rw [query.accepted_of_id, ← query.map_select v, List.mapM_map, List.mapM_map]
      congr 1
      funext s
      simp only [Function.comp_apply, Contribution.posting, unlisted]
      rfl
    unfold postings at ih ⊢
    rw [contributions_cons, contributions_cons, List.mapM_append, List.mapM_append, ih]
    dsimp only
    split
    · rw [same]
    · rfl

/-! ### Vouchers in another order -/

/-- A sorted report has the same values for vouchers with other ids in another order. -/
theorem sameValues_of_subtotal (unlisted : spec.itemized = false) (sorted : spec.order = .sorted)
    (hperm : us.Perm ws) (hfilled : List.Forall₂ FilledIn vs ws) {s s' : Subtotal}
    (h : subtotal .lossless (us.map .ok) query spec = .ok s)
    (h' : subtotal .lossless (vs.map .ok) query spec = .ok s') :
    s.levels = s'.levels ∧ s.aggregation = s'.aggregation ∧ s.root.SameValues s'.root := by
  obtain ⟨days?, hdays⟩ := exists_span_of_subtotal h
  obtain ⟨ps, g, hps, _, reports, hroot, rfl⟩ := reports_of_subtotal hdays h
  obtain ⟨qs, g', hqs, _, reports', hroot', rfl⟩ := reports_of_subtotal hdays h'
  rw [VoucherStream.delivered_ok] at hps hqs
  rw [← postings_of_filledIn unlisted hfilled] at hqs
  obtain ⟨ps', hps', hpostings⟩ := postings_of_perm (.refl _) hperm hqs
  obtain rfl := Except.ok.inj (hps.symm.trans hps')
  have nolisting : ∀ p ∈ ps, p.listed? = none := by
    intro p hp
    obtain ⟨c, _, hc⟩ := Contribution.Posted.exists_of_mem (mapM_eq_ok.1 hps) hp
    rw [(Contribution.posting_eq_ok.1 hc).2, unlisted]
    rfl
  rw [sorted] at reports reports'
  have values := reports.sameValues (ReportSpec.le_of_span? hdays) hpostings nolisting reports'
    (hroot.trans hroot'.symm)
  refine ⟨rfl, rfl, ?_⟩
  dsimp only
  split
  · exact values.prune
  · exact values

/-! ### Reports on a ledger -/

/-- A report on a ledger is one on all of its vouchers, in some order. -/
lemma Ledger.exists_report_eq (l : Ledger) (query : ResolvedQuery) (spec : ReportSpec) :
    ∃ us : List Voucher, us.Perm (l.vouchers.map (·.2)) ∧
      ∀ A, report A l.source query spec = subtotal A (us.map .ok) query spec := by
  let hint := spec.scanHint query.dateHint
  let outside := (l.vouchers.map (·.2)).filter fun v => !hint.contains v.date?
  have pruned : Pruned hint (l.scan hint ++ outside) (l.scan hint) :=
    .append _ fun v hv => by simpa using List.of_mem_filter hv
  refine ⟨l.scan hint ++ outside, ?_, fun A => report_eq_subtotal_of_scan rfl pruned⟩
  exact ((l.scan_perm hint).append_right outside).trans (List.filter_append_perm _ _)

/-- If the ids that are handed out are distinct and fresh, then vouchers that break no rule all get into a
ledger, unless a later one has the same id. A scan hands out the latest of them, once each and with ids; if no
id is given twice, these are all vouchers. A sorted report on the ledger has the same keys and numbers as one on
the latest vouchers, if both can be made without loss. -/
theorem report_of_ofVouchers (newIds : IdSource) (vs : List Voucher) (valid : findings vs = .ok [])
    (distinct : newIds.Distinct vs.length) (fresh : newIds.FreshFor vs) :
    ∃ l, ofVouchers newIds vs = .ok l ∧
      (∃ ws, (l.scan .unconstrained).Perm ws ∧ List.Forall₂ FilledIn (latest vs) ws) ∧
      ((l.scan .unconstrained).map (·.id?)).Nodup ∧
      ((vs.filterMap (·.id?)).Nodup → latest vs = vs) ∧
      ∀ (query : ResolvedQuery) (spec : ReportSpec), spec.itemized = false → spec.order = .sorted →
        (∀ o, report .lossless l.source query spec ≠ .error (.overflow o)) →
        (∀ o, subtotal .lossless ((latest vs).map .ok) query spec ≠ .error (.overflow o)) →
        (∃ e, report .rounding l.source query spec = .error (.error (.invalid e)) ∧
          subtotal .rounding ((latest vs).map .ok) query spec = .error (.error (.invalid e))) ∨
        ∃ s s', report .rounding l.source query spec = .ok s ∧
          subtotal .rounding ((latest vs).map .ok) query spec = .ok s' ∧
          s.levels = s'.levels ∧ s.aggregation = s'.aggregation ∧ s.root.SameValues s'.root := by
  obtain ⟨l, hl, holds⟩ := exists_ofVouchers valid distinct fresh
  refine ⟨l, hl, ⟨_, l.scan_unconstrained_perm, holds.filledIn⟩, holds.nodup_scan _, latest_of_nodup,
    fun query spec unlisted sorted hreport hlatest => ?_⟩
  obtain ⟨us, hperm, hus⟩ := l.exists_report_eq query spec
  simp only [hus] at hreport ⊢
  cases hdays : spec.span? with
  | error e => exact .inl ⟨e, by simp [subtotal, hdays]⟩
  | ok days? =>
    obtain ⟨s, hs⟩ := exists_subtotal_of_no_overflow hdays hreport
    obtain ⟨s', hs'⟩ := exists_subtotal_of_no_overflow hdays hlatest
    have rounds := subtotal_confirmed Arithmetic.lossless_refines_rounding
    exact .inr ⟨s, s', rounds _ query spec hs, rounds _ query spec hs',
      sameValues_of_subtotal unlisted sorted hperm holds.filledIn hs hs'⟩

/-- By account, in order. -/
def sortedSum : ReportSpec := ⟨[.account], .sum, none, .sorted, false⟩

/-- The deposit as a new ledger keeps it. -/
def Voucher.deposited : Voucher := { deposit with id? := some "new-0" }

/-- A ledger made of a sale and of a deposit that has no id yet reports both of them. -/
theorem sale_deposit_reported :
    findings [sale, deposit] = .ok [] ∧ (IdSource.numbered "new-").Distinct 2 ∧
    (IdSource.numbered "new-").FreshFor [sale, deposit] ∧
    ∃ l s s', ofVouchers (.numbered "new-") [sale, deposit] = .ok l ∧
      (∃ ws, (l.scan .unconstrained).Perm ws ∧ List.Forall₂ FilledIn [sale, deposit] ws) ∧
      report .rounding l.source (.ofTree .all) sortedSum = .ok s ∧
      subtotal .rounding [.ok sale, .ok deposit] (.ofTree .all) sortedSum = .ok s' ∧
      s.root.SameValues s'.root := by
  have valid : findings [sale, deposit] = .ok [] := by decide
  have distinct : (IdSource.numbered "new-").Distinct 2 := IdSource.distinct_numbered _ _
  have fresh : (IdSource.numbered "new-").FreshFor [sale, deposit] := by decide
  obtain ⟨l, hl, hscan, _, hlatest, hreports⟩ :=
    report_of_ofVouchers (.numbered "new-") [sale, deposit] valid distinct fresh
  rw [hlatest (by decide)] at hscan hreports
  have fits : ∀ vs ∈ [[sale, deposit], [sale, deposited], [deposited, sale]],
      ∀ o, subtotal .lossless (vs.map .ok) (.ofTree .all) sortedSum ≠ .error (.overflow o) := by
    have isOk : ∀ vs ∈ [[sale, deposit], [sale, deposited], [deposited, sale]],
        (subtotal .lossless (vs.map .ok) (.ofTree .all) sortedSum).isOk = true := by
      decide +kernel
    intro vs hvs o h
    have := isOk vs hvs
    rw [h] at this
    cases this
  have reported : ∀ o, report .lossless l.source (.ofTree .all) sortedSum ≠ .error (.overflow o) := by
    obtain ⟨us, hperm, hus⟩ := l.exists_report_eq (.ofTree .all) sortedSum
    have kept : l.vouchers.map (·.2) = [sale, deposited] := by
      cases hl
      rfl
    rw [kept, List.perm_pair] at hperm
    rw [hus]
    rcases hperm with rfl | rfl
    · exact fits _ (by simp)
    · exact fits _ (by simp)
  rcases hreports (.ofTree .all) sortedSum rfl rfl reported (fits _ (by simp)) with
    ⟨e, _, he⟩ | ⟨s, s', hs, hs', _, _, values⟩
  · cases he
  · exact ⟨valid, distinct, fresh, l, s, s', hl, hscan, hs, hs', values⟩

/-- A ledger made of a sale and of a correction with its id has lost the sale, though no id is missing. -/
theorem sale_replaced :
    findings [sale, correctedSale] = .ok [] ∧ (IdSource.numbered "new-").Distinct 2 ∧
    (IdSource.numbered "new-").FreshFor [sale, correctedSale] ∧
    ∃ l, ofVouchers (.numbered "new-") [sale, correctedSale] = .ok l ∧
      l.scan .unconstrained = [correctedSale] := by
  refine ⟨by decide, IdSource.distinct_numbered _ _, by decide, ⟨[("sale", correctedSale)], 0⟩, rfl, ?_⟩
  simp [scan]

end Daybook
