import Daybook.Proofs.Ledger.History
import Daybook.Proofs.Ledger.Report
import Daybook.Proofs.Report.Breakdown
import Daybook.Proofs.Report.Missing

/-!
# Reports in the reporting currency

If all entries are in the reporting currency already, a report of sums is taken over as it is: no rate is asked
for, no group is left unconverted, and the grand total is the total (`exists_takesOver`). This holds of a report
on vouchers and of one on a ledger made of them (`TakenOverIn`).
-/

namespace Daybook

open Contribution Consolidation

variable {A : Arithmetic} {query : ResolvedQuery} {spec : ReportSpec} {plan : Plan} {levels : List Level}
  {vs : List Voucher} {ps : List Posting}

/-- The report has been converted into what it is without conversion. -/
structure Consolidated.TakesOver (c : Consolidated) (s : Subtotal) : Prop where
  unconverted_eq : c.unconverted = []
  exists_grandTotal : ∃ t, c.grandTotal? = some t ∧ t.sameValue s.root.total = true

/-- All entries of a voucher are in a currency. -/
def Voucher.AllIn (currency : String) (v : Voucher) : Prop := ∀ e ∈ v.entries, e.currency = currency

/-! ### Entries of postings -/

lemma mem_of_mem_contributions {range? : Option DateRange} {c : Contribution}
    (h : c ∈ contributions query range? vs) : c.voucher ∈ vs ∧ c.selected.entry ∈ c.voucher.entries := by
  obtain ⟨v, hv, hc⟩ := List.mem_flatMap.1 h
  obtain ⟨leaf, _, hc⟩ := List.mem_flatMap.1 hc
  obtain ⟨⟨e, i⟩, he, rfl⟩ := List.mem_map.1 hc
  exact ⟨List.mem_of_mem_filter hv, List.fst_mem_of_mem_zipIdx (List.mem_of_mem_filter he)⟩

/-- A posting goes by the keys of an entry of one of the vouchers. -/
lemma exists_entry_of_postings (h : postings A query spec vs = .ok ps) {q : Posting} (hq : q ∈ ps) :
    ∃ v ∈ vs, ∃ e ∈ v.entries, q.path = spec.levels.map (·.key e v) := by
  obtain ⟨c, hmem, hc⟩ := Contribution.Posted.exists_of_mem (mapM_eq_ok.1 h) hq
  obtain ⟨hv, he⟩ := mem_of_mem_contributions hmem
  exact ⟨c.voucher, hv, c.selected.entry, he, by rw [(posting_eq_ok.1 hc).2]; rfl⟩

/-! ### Rates -/

namespace Consolidation

/-- Nothing is multiplied in the reporting currency. -/
lemma rateAt?_of_currency {p : Position} (h : p.currency? = some plan.currency) :
    plan.rateAt? p = some none := by
  simp [Plan.rateAt?, h]

/-- So nothing is multiplied for any posting if all entries are in it. -/
lemma rateOf?_of_allIn (own : ∀ v ∈ vs, v.AllIn plan.currency) (hcur : .currency ∈ spec.levels)
    (hps : postings A query spec vs = .ok ps) :
    ∀ q ∈ ps, rateOf? plan .root spec.levels q = some none := by
  intro q hq
  obtain ⟨v, hv, e, he, hpath⟩ := exists_entry_of_postings hps hq
  apply rateAt?_of_currency
  rw [hpath, Position.currency?_follow (.inl hcur), own v hv e he]

/-- Nothing is missing if the total of the whole is there. -/
lemma Accounts.missing_eq_nil {p : Position} {g : Group} {missing : List Unconverted} {t : Decimal}
    (h : Accounts p g missing) (ht : g.converted? = some t) : missing = [] := by
  rw [List.eq_nil_iff_forall_not_mem]
  intro u hu
  obtain ⟨path, leaf, _, hleaf, undivided, hnone, _⟩ := h.listed u hu
  have := (h.inner [] g (.here g)).2 ⟨path, leaf, hleaf, undivided, hnone⟩
  rw [ht] at this
  cases this

/-- A total at no other rate than one is the sum of the amounts. -/
lemma Converts.value_of_own {total? : Option Decimal} (h : Converts plan .root levels ps total?)
    (own : ∀ q ∈ ps, rateOf? plan .root levels q = some none) :
    ∃ t, total? = some t ∧ t.value = (ps.map (·.amount.value)).sum := by
  cases total? with
  | none =>
    obtain ⟨q, hq, hrate⟩ := h.missing rfl
    rw [own q hq] at hrate
    cases hrate
  | some t =>
    refine ⟨t, rfl, ?_⟩
    have each : ps.map (worth plan .root levels) = ps.map (·.amount.value) := by
      refine List.map_congr_left fun q hq => ?_
      rw [worth, own q hq]
      exact mul_one _
    rw [h.value_eq t rfl, each]

end Consolidation

/-! ### Reports -/

/-- A consolidation with a total has not left anything unconverted. -/
lemma unconverted_of_grandTotal {s : Subtotal} {c : Consolidated} {t : Decimal}
    (hcur : .currency ∈ s.levels) (hcount : s.aggregation ≠ .count) (hc : consolidate A s plan = .ok c)
    (ht : c.grandTotal? = some t) : c.unconverted = [] := by
  rw [consolidate_eq hcur hcount] at hc
  obtain ⟨⟨root, missing⟩, hconvert, hc⟩ := bind_eq_ok.1 hc
  cases hc
  exact (convert_accounts (liftOverflow_eq_ok.1 hconvert)).missing_eq_nil ht

/-- The grand total is a field of the consolidation, and overflows only with it. -/
lemma grandTotal?_ne_overflow {stream : VoucherStream}
    (h : ∀ o, (subtotal A stream query spec >>= (consolidate A · plan)) ≠ .error (.overflow o)) :
    ∀ o, grandTotal? A stream query spec plan ≠ .error (.overflow o) := by
  intro o ho
  refine h o ?_
  rw [grandTotal?, ← bind_assoc] at ho
  cases hc : subtotal A stream query spec >>= (consolidate A · plan) with
  | error e =>
    rw [hc] at ho
    cases ho
    rfl
  | ok c =>
    rw [hc] at ho
    cases ho

/-- A report of sums on entries in the reporting currency is taken over as it is, if nothing overflows without
loss. -/
theorem exists_takesOver (own : ∀ v ∈ vs, v.AllIn plan.currency) (hsum : spec.aggregation = .sum)
    (hcur : .currency ∈ spec.levels)
    (fits : ∀ o, (subtotal .lossless (vs.map .ok) query spec >>= (consolidate .lossless · plan))
      ≠ .error (.overflow o)) :
    ∃ s c, subtotal .rounding (vs.map .ok) query spec = .ok s ∧ consolidate .rounding s plan = .ok c ∧
      c.TakesOver s := by
  obtain ⟨levels, _, range?, order, itemized⟩ := spec
  obtain rfl := hsum
  obtain ⟨total?, htotal⟩ := exists_grandTotal? rfl hcur (by simp) (grandTotal?_ne_overflow fits)
  obtain ⟨ps, hps, converts⟩ := converts_of_grandTotal? hcur htotal
  obtain ⟨t, rfl, hvalue⟩ := converts.value_of_own (rateOf?_of_allIn own hcur hps)
  obtain ⟨s, hs, htotal⟩ := bind_eq_ok.1 htotal
  obtain ⟨c, hc, htotal⟩ := bind_eq_ok.1 htotal
  have ht : c.grandTotal? = some t := Except.ok.inj htotal
  refine ⟨s, c, subtotal_confirmed Arithmetic.lossless_refines_rounding _ _ _ hs,
    consolidate_confirmed Arithmetic.lossless_refines_rounding _ _ hc, ?_, t, ht, ?_⟩
  · obtain ⟨_, g, _, _, _, _, rfl⟩ := reports_of_subtotal rfl hs
    exact unconverted_of_grandTotal hcur (by simp) hc ht
  · obtain ⟨qs, g, hqs, _, reports, _, rfl⟩ := reports_of_subtotal rfl hs
    rw [VoucherStream.delivered_ok] at hqs
    obtain rfl := Except.ok.inj (hps.symm.trans hqs)
    rw [Decimal.sameValue_iff, hvalue]
    exact reports.value_total.symm

/-! ### Vouchers that a ledger keeps -/

namespace Ledger

variable {newIds : IdSource} {l l' : Ledger} {currency : String}

/-- A voucher that is taken in brings its own entries and no other ones. -/
lemma allIn_of_upsert {v : Voucher} {id : String} (h : ∀ kept ∈ l.vouchers, kept.2.AllIn currency)
    (hv : v.AllIn currency) (hupsert : l.upsert newIds v = .ok (id, l')) :
    ∀ kept ∈ l'.vouchers, kept.2.AllIn currency := by
  have inserted : ∀ id, ∀ kept ∈ (l.insert id v).vouchers, kept.2.AllIn currency := by
    intro id kept hkept
    rcases List.mem_append.1 hkept with hother | hnew
    · exact h kept (List.mem_of_mem_filter hother)
    · rw [List.mem_singleton.1 hnew]
      exact hv
  have changes : l.Changes newIds (.upsert v) l' := by
    have := changes_change newIds l (.upsert v)
    rwa [change, hupsert] at this
  cases changes with
  | refused => exact h
  | inserted => exact inserted _
  | issued => exact inserted _

lemma allIn_of_upsertAll (h : ∀ kept ∈ l.vouchers, kept.2.AllIn currency)
    (hvs : ∀ v ∈ vs, v.AllIn currency) (hall : l.upsertAll newIds vs = .ok l') :
    ∀ kept ∈ l'.vouchers, kept.2.AllIn currency := by
  induction vs generalizing l with
  | nil =>
    cases hall
    exact h
  | cons v vs ih =>
    obtain ⟨hv, hvs⟩ := List.forall_mem_cons.1 hvs
    obtain ⟨⟨id, l₁⟩, hupsert, hall⟩ := bind_eq_ok.1 hall
    exact ih (allIn_of_upsert h hv hupsert) hvs hall

end Ledger

/-! ### Reports on vouchers and on ledgers -/

/-- Reports of sums with a level of currencies are taken over in a currency as they are, at whatever rates, if
nothing overflows without loss. -/
def TakenOverIn (currency : String)
    (run : Arithmetic → ResolvedQuery → ReportSpec → Except (Fault ReportError) Subtotal) : Prop :=
  ∀ (query : ResolvedQuery) (spec : ReportSpec) (rates : RateSource) (asOf : Date),
    spec.aggregation = .sum → .currency ∈ spec.levels →
    (∀ o, (run .lossless query spec >>= (consolidate .lossless · ⟨currency, rates, asOf⟩))
      ≠ .error (.overflow o)) →
    ∃ s c, run .rounding query spec = .ok s ∧
      consolidate .rounding s ⟨currency, rates, asOf⟩ = .ok c ∧ c.TakesOver s

lemma takenOverIn_of_allIn {currency : String} {vs : List Voucher} (own : ∀ v ∈ vs, v.AllIn currency) :
    TakenOverIn currency fun A => subtotal A (vs.map .ok) :=
  fun _ _ _ _ hsum hcur fits => exists_takesOver own hsum hcur fits

/-- So they are on a ledger made of the vouchers. -/
lemma Ledger.takenOverIn_of_allIn {currency : String} {vs : List Voucher} {newIds : IdSource}
    {l : Ledger} (own : ∀ v ∈ vs, v.AllIn currency) (hl : ofVouchers newIds vs = .ok l) :
    TakenOverIn currency fun A => report A l.source := by
  intro query spec rates asOf hsum hcur fits
  have kept := allIn_of_upsertAll (by simp [empty]) own hl
  obtain ⟨us, hperm, hus⟩ := l.exists_report_eq query spec
  simp only [hus] at fits ⊢
  refine exists_takesOver (fun v hv => ?_) hsum hcur fits
  obtain ⟨entry, hentry, rfl⟩ := List.mem_map.1 (hperm.mem_iff.1 hv)
  exact kept entry hentry

end Daybook
