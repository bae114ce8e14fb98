import Daybook.Proofs.Ledger.History
import Daybook.Proofs.Ledger.Report
import Daybook.Proofs.Report.Vanishing

/-!
# Trial balance

In a report by currencies on whole vouchers, every currency comes to zero. A voucher gets into a ledger only
if its amounts cancel in every currency, so what a whole voucher adds to the group of a currency cancels,
too (`Posting.cancel_of_accepted`). The group begins with nothing, and stays at zero from voucher to
voucher (`Tally.Vanishes.collectAll`), whatever the history of the ledger (`trial_balance`).
-/

namespace Daybook

open Decimal (Alike Cancel)

variable {tree : FilterTree} {spec : ReportSpec} {v : Voucher} {vs : List Voucher} {ps : List Posting}

/-- The tree accepts all entries of a voucher, or none. -/
def FilterTree.TakesWhole (tree : FilterTree) (v : Voucher) : Prop :=
  ∀ e ∈ v.entries, ∀ f ∈ v.entries, tree.accepts e v = tree.accepts f v

/-! ### Postings of a voucher -/

namespace Posting

/-- An entry that counts once goes to the group of its currency, with its amount. -/
lemma posting_entry {levels : List Level} (hlevels : spec.levels = .currency :: levels)
    (hcount : spec.aggregation ≠ .count) {leaf : ResolvedLeaf} (hone : leaf.coefficient = .one)
    {e : Entry} {i : ℕ} {p : Posting}
    (h : (⟨v, leaf, i, e⟩ : Contribution).posting .rounding spec = .ok p) :
    p.date? = v.date? ∧ p.path = .currency e.currency :: levels.map (·.key e v) ∧
      e.amount.Alike p.amount := by
  obtain ⟨hamount, hp⟩ := Contribution.posting_eq_ok.1 h
  rw [Contribution.amount, Selected.amount, if_neg hcount, hone] at hamount
  refine ⟨by rw [hp], ?_, Decimal.alike_of_mul_one hamount⟩
  rw [hp, Contribution.path, Selected.path, hlevels]
  rfl

/-- In the group of a currency are the amounts of the entries in it, all on the date of the voucher. -/
lemma alike_of_posted {levels : List Level} (hlevels : spec.levels = .currency :: levels)
    (hcount : spec.aggregation ≠ .count) {leaf : ResolvedLeaf} (hone : leaf.coefficient = .one)
    {es : List (Entry × ℕ)}
    (h : Contribution.Posted .rounding spec (es.map fun (e, i) => ⟨v, leaf, i, e⟩) ps)
    (code : String) :
    List.Forall₂ Alike (((es.map (·.1)).filter (·.currency == code)).map Entry.amount)
        ((under (.currency code) ps).map (·.amount)) ∧
      ∀ p ∈ under (.currency code) ps, p.date? = v.date? := by
  induction es generalizing ps with
  | nil =>
    cases h
    exact ⟨.nil, List.forall_mem_nil _⟩
  | cons x es ih =>
    obtain ⟨e, i⟩ := x
    obtain _ | @⟨_, p, _, ps, hp, hps⟩ := h
    obtain ⟨hdate, hpath, halike⟩ := posting_entry hlevels hcount hone hp
    obtain ⟨hamounts, hdates⟩ := ih hps
    by_cases hcode : e.currency = code
    · have hunder : under (.currency code) (p :: ps)
          = { p with path := levels.map (·.key e v) } :: under (.currency code) ps := by
        simp [under, enter?, hpath, hcode]
      rw [hunder, List.map_cons, List.filter_cons_of_pos (by simpa using hcode), List.map_cons,
        List.map_cons]
      exact ⟨.cons halike hamounts, List.forall_mem_cons.2 ⟨hdate, hdates⟩⟩
    · have hunder : under (.currency code) (p :: ps) = under (.currency code) ps := by
        simp [under, enter?, hpath, hcode]
      rw [hunder, List.map_cons, List.filter_cons_of_neg (by simpa using hcode)]
      exact ⟨hamounts, hdates⟩

/-- What a balanced voucher adds to the group of a currency cancels, if it is taken as a whole. -/
lemma cancel_of_accepted {levels : List Level} (hlevels : spec.levels = .currency :: levels)
    (hcount : spec.aggregation ≠ .count) (whole : tree.TakesWhole v) (balanced : v.Balanced)
    (h : ((ResolvedQuery.ofTree tree).accepted v).mapM (·.posting .rounding spec) = .ok ps)
    (code : String) :
    Cancel ((under (.currency code) ps).map (·.amount)) ∧
      ∀ p ∈ under (.currency code) ps, p.date? = v.date? := by
  have accepted : (ResolvedQuery.ofTree tree).accepted v
      = (v.entries.zipIdx.filter fun (e, _) => tree.accepts e v).map
        fun (e, i) => ⟨v, ⟨tree, .one, none, []⟩, i, e⟩ := List.append_nil _
  rw [accepted, mapM_eq_ok] at h
  obtain ⟨halike, hdates⟩ := alike_of_posted hlevels hcount rfl h code
  refine ⟨?_, hdates⟩
  -- the voucher goes in as a whole, so in balance, or not at all
  by_cases hsome : ∃ e ∈ v.entries, tree.accepts e v = true
  · obtain ⟨e, he, haccepts⟩ := hsome
    have all : v.entries.zipIdx.filter (fun (e, _) => tree.accepts e v) = v.entries.zipIdx := by
      refine List.filter_eq_self.2 ?_
      rintro ⟨f, i⟩ hf
      exact (whole f (List.fst_mem_of_mem_zipIdx hf) e he).trans haccepts
    rw [all, List.zipIdx_map_fst] at halike
    obtain ⟨t, ht, hzero⟩ := balanced code
    exact Decimal.cancel_of_sum ht hzero halike
  · have none : v.entries.zipIdx.filter (fun (e, _) => tree.accepts e v) = [] := by
      refine List.filter_eq_nil_iff.2 ?_
      rintro ⟨f, i⟩ hf haccepts
      exact hsome ⟨f, List.fst_mem_of_mem_zipIdx hf, haccepts⟩
    rw [none] at halike
    exact Decimal.cancel_of_sum rfl rfl halike

end Posting

/-! ### Postings of vouchers -/

namespace Tally

variable {A : Arithmetic} {days : Date × Date} {tally : Tally}

/-- Postings of one date go in as amounts. -/
lemma foldlM_of_date {date? : Option Date} (h : ∀ p ∈ ps, p.date? = date?) (tally : Tally) :
    ps.foldlM (fun t p => t.add A p.date? p.amount) tally
      = (ps.map (·.amount)).foldlM (fun t a => t.add A date? a) tally := by
  induction ps generalizing tally with
  | nil => rfl
  | cons p ps ih =>
    obtain ⟨hp, h⟩ := List.forall_mem_cons.1 h
    rw [List.foldlM_cons, List.map_cons, List.foldlM_cons, hp]
    exact congrArg _ (funext (ih h))

/-- With days, the days are told apart to the end. -/
lemma exists_daily (h : collect A (some days) ps = .ok tally) : ∃ t, tally = .daily t := by
  induction ps using List.reverseRecOn generalizing tally with
  | nil =>
    cases h
    exact ⟨_, rfl⟩
  | append_singleton ps p ih =>
    rw [collect_concat, bind_eq_ok] at h
    obtain ⟨_, hu, h⟩ := h
    obtain ⟨u, rfl⟩ := ih hu
    obtain ⟨t, _, h⟩ := bind_eq_ok.1 h
    cases h
    exact ⟨t, rfl⟩

end Tally

/-- From voucher to voucher, the tally of a currency vanishes. -/
lemma Tally.Vanishes.collectAll {levels : List Level} (hlevels : spec.levels = .currency :: levels)
    (hcount : spec.aggregation ≠ .count) (whole : ∀ v ∈ vs, tree.TakesWhole v)
    (balanced : ∀ v ∈ vs, v.Balanced)
    (h : postings .rounding (.ofTree tree) spec vs = .ok ps) (code : String) {tally : Tally}
    (ht : tally.Vanishes) :
    ∃ tally', (Posting.under (.currency code) ps).foldlM
        (fun t p => t.add .rounding p.date? p.amount) tally = .ok tally' ∧ tally'.Vanishes := by
  induction vs generalizing ps tally with
  | nil =>
    cases h
    exact ⟨tally, rfl, ht⟩
  | cons v vs ih =>
    obtain ⟨wholeFirst, whole⟩ := List.forall_mem_cons.1 whole
    obtain ⟨balancedFirst, balanced⟩ := List.forall_mem_cons.1 balanced
    rw [postings, contributions_cons, List.mapM_append] at h
    obtain ⟨first, hfirst, h⟩ := bind_eq_ok.1 h
    obtain ⟨rest, hrest, h⟩ := bind_eq_ok.1 h
    cases h
    have block : ∃ tally', (Posting.under (.currency code) first).foldlM
        (fun t p => t.add .rounding p.date? p.amount) tally = .ok tally' ∧ tally'.Vanishes := by
      split at hfirst
      · obtain ⟨cancel, hdates⟩ :=
          Posting.cancel_of_accepted hlevels hcount wholeFirst balancedFirst hfirst code
        obtain ⟨tally', htally', hvanishes⟩ := ht.addAll cancel v.date?
        refine ⟨tally', ?_, hvanishes⟩
        rw [Tally.foldlM_of_date hdates, htally']
      · cases hfirst
        exact ⟨tally, rfl, ht⟩
    obtain ⟨tally', htally', hvanishes⟩ := block
    obtain ⟨tally'', htally'', hvanishes'⟩ := ih whole balanced hrest hvanishes
    exact ⟨tally'', by
      rw [Posting.under_append, foldlM_append_eq_ok]
      exact ⟨tally', htally', htally''⟩, hvanishes'⟩

/-! ### Groups of currencies -/

namespace Group.Reports

variable {days? : Option (Date × Date)} {order : GroupOrder} {n : ℕ} {g c : Group}
  {levels : List Level}

/-- In a report on whole balanced vouchers, every group below the root is that of a currency and comes to
zero, and so does its running balance. -/
lemma vanishes (h : Reports .rounding days? order spec.levels.length ps g)
    (hlevels : spec.levels = .currency :: levels) (hcount : spec.aggregation ≠ .count)
    (hdays : spec.span? = .ok days?) (whole : ∀ v ∈ vs, tree.TakesWhole v)
    (balanced : ∀ v ∈ vs, v.Balanced)
    (hps : postings .rounding (.ofTree tree) spec vs = .ok ps) (hc : c ∈ g.children) :
    ∃ code, c.key = .currency code ∧ c.total.isZero = true ∧
      ∀ series, c.series? = some series → series.Vanishes := by
  have hkey := (h.mem_keys (path_length_of_postings hps)).1 (List.mem_map_of_mem hc)
  obtain ⟨q, hq, hhead⟩ := Posting.mem_nextKeys.1 hkey
  obtain ⟨e, v, hpath⟩ := exists_keys_of_postings hps q hq
  have hcode : c.key = .currency e.currency := by
    rw [hpath, hlevels] at hhead
    exact (Option.some.inj hhead).symm
  have start : (Tally.empty days?).Vanishes := Tally.vanishes_empty (ReportSpec.le_of_span? hdays)
  obtain ⟨tally, htally, hvanishes⟩ :=
    start.collectAll hlevels hcount whole balanced hps e.currency
  obtain ⟨m, _, hpart⟩ := h.part hc
  obtain ⟨tally', htally', hconclude⟩ := hpart.concluded
  rw [hcode] at htally'
  obtain rfl := Except.ok.inj (htally.symm.trans htally')
  exact ⟨e.currency, hcode, hvanishes.conclude hconclude⟩

/-- With days, every undivided group has a running balance. -/
lemma exists_series {days : Date × Date} (h : Reports .rounding (some days) order 0 ps g) :
    ∃ series, g.series? = some series := by
  obtain ⟨tally, htally, hconclude⟩ := h.concluded
  obtain ⟨t, rfl⟩ := Tally.exists_daily htally
  rw [isLeaf, h.undivided] at hconclude
  obtain ⟨_, ⟨hleaf, _⟩ | ⟨_, series, _, hseries⟩⟩ := Bucket.conclude_daily_eq_ok.1 hconclude
  · cases hleaf
  · exact ⟨series, hseries⟩

end Group.Reports

/-! ### Reports on ledgers -/

/-- A report that takes balanced vouchers as a whole comes to zero in every currency. Where zeros are hidden
there is nothing left of it, and running balances are zero on every day. -/
theorem subtotal_balances {s : Subtotal} (hlevel : spec.levels.head? = some .currency)
    (hcount : spec.aggregation ≠ .count) (whole : ∀ v ∈ vs, tree.TakesWhole v)
    (balanced : ∀ v ∈ vs, v.Balanced)
    (hs : subtotal .rounding (vs.map .ok) (.ofTree tree) spec = .ok s) :
    (∀ g ∈ s.root.children, ∃ code, g.key = .currency code ∧ g.total.value = 0) ∧
      (spec.aggregation = .nonZero → s.root.children = []) ∧
      (spec.aggregation = .everyDay → spec.levels = [.currency] →
        ∀ g ∈ s.root.children, ∃ series, g.series? = some series ∧ series.Vanishes) := by
  obtain ⟨levels, hlevels⟩ := List.head?_eq_some_iff.1 hlevel
  obtain ⟨days?, hdays⟩ := exists_span_of_subtotal hs
  obtain ⟨ps, g, hps, _, reports, _, rfl⟩ := reports_of_subtotal hdays hs
  rw [VoucherStream.delivered_ok] at hps
  have vanishes : ∀ c ∈ g.children, ∃ code, c.key = .currency code ∧ c.total.isZero = true ∧
      ∀ series, c.series? = some series → series.Vanishes := fun c hc =>
    reports.vanishes hlevels hcount hdays whole balanced hps hc
  have hidden : g.prune.children = [] := by
    rw [Group.children_prune, Group.pruneAll_eq_nil]
    intro c hc
    obtain ⟨_, _, hzero, _⟩ := vanishes c hc
    exact Decimal.vanishesAt_of_isZero hzero _
  by_cases hhide : spec.aggregation = .nonZero
  · simp only [if_pos hhide, hidden]
    exact ⟨List.forall_mem_nil _, fun _ => trivial, fun _ _ => List.forall_mem_nil _⟩
  · simp only [if_neg hhide]
    refine ⟨fun c hc => ?_, fun h => absurd h hhide, fun hdaily honly c hc => ?_⟩
    · obtain ⟨code, hcode, hzero, _⟩ := vanishes c hc
      exact ⟨code, hcode, Decimal.isZero_iff.1 hzero⟩
    · obtain ⟨_, days, _, rfl⟩ := (ReportSpec.span?_eq_ok.1 hdays).resolve_right fun h => h.1 hdaily
      rw [honly] at reports
      obtain ⟨series, hseries⟩ := (reports.part_of_succ hc).exists_series
      obtain ⟨_, _, _, hvanishes⟩ := vanishes c hc
      exact ⟨series, hseries, hvanishes series hseries⟩

/-- So does one on a ledger, after any history of the ledger. -/
theorem trial_balance (newIds : IdSource) (history : List Ledger.Change) (tree : FilterTree)
    (spec : ReportSpec) (hlevel : spec.levels.head? = some .currency)
    (hcount : spec.aggregation ≠ .count)
    (hspan : spec.aggregation = .everyDay → ∃ days, spec.span = .ok days)
    (whole : ∀ v ∈ (Ledger.after newIds history).stored, tree.TakesWhole v)
    (fits : ∀ o, report .rounding (Ledger.after newIds history).source (.ofTree tree) spec
      ≠ .error (.overflow o)) :
    ∃ s, report .rounding (Ledger.after newIds history).source (.ofTree tree) spec = .ok s ∧
      (∀ g ∈ s.root.children, ∃ code, g.key = .currency code ∧ g.total.value = 0) ∧
      (spec.aggregation = .nonZero → s.root.children = []) ∧
      (spec.aggregation = .everyDay → spec.levels = [.currency] →
        ∀ g ∈ s.root.children, ∃ series, g.series? = some series ∧ series.Vanishes) := by
  obtain ⟨days?, hdays⟩ : ∃ days?, spec.span? = .ok days? := by
    by_cases hdaily : spec.aggregation = .everyDay
    · obtain ⟨days, hdays⟩ := hspan hdaily
      exact ⟨_, ReportSpec.span?_eq_ok.2 (.inl ⟨hdaily, days, hdays, rfl⟩)⟩
    · exact ⟨_, ReportSpec.span?_eq_ok.2 (.inr ⟨hdaily, rfl⟩)⟩
  obtain ⟨us, hperm, hus⟩ := (Ledger.after newIds history).exists_report_eq (.ofTree tree) spec
  rw [hus] at fits ⊢
  obtain ⟨s, hs⟩ := exists_subtotal_of_no_overflow hdays fits
  have balanced : ∀ v ∈ us, v.Balanced := fun v hv =>
    (Ledger.Valid.after newIds history).balanced (hperm.mem_iff.1 hv)
  have whole : ∀ v ∈ us, tree.TakesWhole v := fun v hv => whole v (hperm.mem_iff.1 hv)
  exact ⟨s, hs, subtotal_balances hlevel hcount whole balanced hs⟩

/-- A sale, an exchange that does not balance and is rejected, and what was sold in the end. -/
def correctedSales : List Ledger.Change :=
  [.upsert .sale, .upsert .exchange, .upsert .correctedSale, .delete "exchange"]

/-- The ledger after these changes. -/
def salesLedger : Ledger := Ledger.after (.numbered "new-") correctedSales

/-- By currency, day by day at the turn of the month. -/
def dailyCurrencies : ReportSpec :=
  ⟨[.currency], .everyDay, some (.between .january30 .february1), .firstSeen, false⟩

/-- Only the corrected sale is left in the ledger, and the only currency stays at zero on every day. -/
theorem correctedSales_balance :
    salesLedger.stored = [.correctedSale] ∧
    (∀ v ∈ salesLedger.stored, FilterTree.all.TakesWhole v) ∧
    (∀ o, report .rounding salesLedger.source (.ofTree .all) dailyCurrencies ≠ .error (.overflow o)) ∧
    ∃ s, report .rounding salesLedger.source (.ofTree .all) dailyCurrencies = .ok s ∧
      s.root.children.map Group.key = [.currency "CNY"] ∧
      ∀ g ∈ s.root.children, g.total.value = 0 ∧
        ∃ series, g.series? = some series ∧ series.Vanishes := by
  have whole : ∀ v ∈ salesLedger.stored, FilterTree.all.TakesWhole v :=
    fun _ _ _ _ _ _ => rfl
  have keys : (report .rounding salesLedger.source (.ofTree .all)
      dailyCurrencies).toOption.map (·.root.children.map Group.key) = some [.currency "CNY"] := by
    decide +kernel
  have fits : ∀ o, report .rounding salesLedger.source (.ofTree .all)
      dailyCurrencies ≠ .error (.overflow o) := by
    intro o ho
    rw [ho] at keys
    cases keys
  obtain ⟨s, hs, zero, _, series⟩ := trial_balance (.numbered "new-") correctedSales .all dailyCurrencies
    rfl (by decide) (fun _ => ⟨_, rfl⟩) whole fits
  refine ⟨by decide +kernel, whole, fits, s, hs, ?_, fun g hg => ⟨?_, series rfl rfl g hg⟩⟩
  · rw [salesLedger, hs] at keys
    exact Option.some.inj keys
  · obtain ⟨_, _, hzero⟩ := zero g hg
    exact hzero

end Daybook
