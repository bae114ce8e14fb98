import Daybook.Proofs.Report.Daily
import Daybook.Proofs.Report.Grouping

/-!
# Running balances and balances of single days

A report of running balances collects amounts in another way than a report of sums: it carries in what
lies before its span, keeps a total for each day, and goes through the days at the end. Both agree if the
amounts can be added up without rounding: at each day of the span the running balance is the sum of
everything up to that day, see `Group.AgreesDaily`.
-/

namespace Daybook

open Contribution

variable {A : Arithmetic} {query : ResolvedQuery} {spec : ReportSpec} {first last : Date}
  {order : GroupOrder} {n : ℕ} {cs : List Contribution} {ps : List Posting} {g : Group}
  {t : DailyTotals}

/-! ### Groups of running balances -/

/-- What totals by day come to: the sum of all postings up to the last day and, for an undivided group,
a series. -/
lemma DailyTotals.Holds.conclude (h : t.Holds first last ps) (hspan : first ≤ last)
    (hadd : Addable (ps.map (·.amount.value))) (isLeaf : Bool) :
    ∃ total series?, Bucket.conclude .rounding isLeaf (.daily t) = .ok (total, series?) ∧
      total.value = Posting.sumWhere ((DateRange.upTo last).withUndated.contains ·.date?) ps ∧
      series?.isSome = isLeaf ∧
      ∀ series, series? = some series → DailyTotals.Tells first last ps series.points := by
  obtain ⟨total, htotal, hv⟩ := h.total hspan hadd
  obtain ⟨series, hseries, tells⟩ := h.series hspan hadd
  cases isLeaf with
  | true =>
    refine ⟨total, some series, ?_, hv, rfl, fun s hs => ?_⟩
    · exact Bucket.conclude_daily_eq_ok.2 ⟨htotal, .inr ⟨rfl, series, hseries, rfl⟩⟩
    · cases hs
      exact tells
  | false =>
    refine ⟨total, none, ?_, hv, rfl, nofun⟩
    exact Bucket.conclude_daily_eq_ok.2 ⟨htotal, .inl ⟨rfl, rfl⟩⟩

lemma Group.Reports.daily (h : Group.Reports .rounding (some (first, last)) order n ps g)
    (hspan : first ≤ last) (hadd : Addable (ps.map (·.amount.value))) :
    g.total.value = Posting.sumWhere ((DateRange.upTo last).withUndated.contains ·.date?) ps ∧
    g.series?.isSome = g.isLeaf ∧
    ∀ series, g.series? = some series → DailyTotals.Tells first last ps series.points := by
  obtain ⟨t, ht, holds⟩ := DailyTotals.exists_collect hspan hadd
  obtain ⟨tally, tally_eq, conclude_eq⟩ := h.concluded
  cases ht.symm.trans tally_eq
  obtain ⟨total, series?, hc, hv, hsome, htells⟩ := holds.conclude hspan hadd g.isLeaf
  cases hc.symm.trans conclude_eq
  exact ⟨hv, hsome, htells⟩

/-! ### Parts of the postings -/

namespace Posting

lemma below_filter (P : Option Date → Bool) (path : List GroupKey) (ps : List Posting) :
    below path (ps.filter fun p => P p.date?) = (below path ps).filter fun p => P p.date? := by
  rw [below_eq, below_eq, List.filter_map, List.filter_filter, List.filter_filter]
  congr 2
  funext p
  exact Bool.and_comm ..

end Posting

lemma ResolvedQuery.voucher_of_mem_accepted {v : Voucher} {c : Contribution}
    (h : c ∈ query.accepted v) : c.voucher = v := by
  simp only [accepted, List.mem_flatMap, List.mem_map] at h
  obtain ⟨_, _, _, _, rfl⟩ := h
  rfl

/-- A narrower range takes in a part of the contributions. -/
lemma contributions_eq_filter {range? wider? : Option DateRange}
    (h : ∀ date?, inRange range? date? = true → inRange wider? date? = true)
    (vs : List Voucher) : contributions query range? vs
      = (contributions query wider? vs).filter fun c => inRange range? c.voucher.date? := by
  induction vs with
  | nil => rfl
  | cons v vs ih =>
    -- all contributions of a voucher have its date, so the range takes all of them or none
    have same : ∀ c ∈ query.accepted v, inRange range? c.voucher.date? = inRange range? v.date? :=
      fun c hc => by rw [query.voucher_of_mem_accepted hc]
    rw [contributions_cons, contributions_cons, List.filter_append, ← ih]
    congr 1
    by_cases hv : inRange range? v.date? = true
    · rw [if_pos hv, if_pos (h _ hv), List.filter_eq_self.2 fun c hc => by rw [same c hc, hv]]
    · rw [if_neg hv]
      symm
      rw [List.filter_eq_nil_iff]
      intro c hc
      have hc' : c ∈ query.accepted v := by
        split at hc
        · exact hc
        · cases hc
      rwa [same c hc']

/-- The dates of postings are those of the vouchers. -/
lemma Contribution.Posted.filter_dates (h : Posted A spec cs ps) (P : Option Date → Bool) :
    Posted A spec (cs.filter fun c => P c.voucher.date?) (ps.filter fun p => P p.date?) := by
  apply List.rel_filter _ h
  intro c p hp
  rw [(posting_eq_ok.1 hp).2]

/-! ### Sums up to a day -/

/-- The report of sums up to a day. -/
def ReportSpec.sumUntil (spec : ReportSpec) (d : Date) : ReportSpec :=
  { spec with aggregation := .sum, range? := some (DateRange.upTo d).withUndated }

/-- The total of the group at the end of a path; zero if there is none. -/
def Group.balanceAt (root : Group) (path : List GroupKey) : Decimal :=
  ((root.descend? path).map Group.total).getD Decimal.zero

/-- Running balances and sums contribute the same amounts. -/
lemma Contribution.posting_sumUntil (hdaily : spec.aggregation = .everyDay) (d : Date)
    (c : Contribution) : c.posting A (spec.sumUntil d) = c.posting A spec := by
  have amount_eq : c.amount A (spec.sumUntil d) = c.amount A spec := by
    simp [amount, Selected.amount, ReportSpec.sumUntil, hdaily]
  rw [posting, posting, amount_eq]
  rfl

/-- The postings of a sum up to a day are those of the running balances up to it. -/
lemma postings_sumUntil (hdaily : spec.aggregation = .everyDay) {vs : List Voucher}
    (posted : Posted .rounding spec
      (contributions query (some (DateRange.upTo last).withUndated) vs) ps)
    {d : Date} (hd : d ≤ last) : postings .rounding query (spec.sumUntil d) vs
      = .ok (ps.filter fun p => (DateRange.upTo d).withUndated.contains p.date?) := by
  have hwider : ∀ date?, inRange (some (DateRange.upTo d).withUndated) date? = true →
      inRange (some (DateRange.upTo last).withUndated) date? = true := by
    intro date? h
    cases date? with
    | none => rfl
    | some e =>
      simp only [inRange, Option.all_some, DateRange.contains_until_some, decide_eq_true_eq] at h ⊢
      exact Date.le_trans h hd
  rw [postings, mapM_eq_ok]
  show List.Forall₂ _ (contributions query (some (DateRange.upTo d).withUndated) vs) _
  rw [contributions_eq_filter hwider]
  refine (posted.filter_dates (DateRange.upTo d).withUndated.contains).imp fun c p hp => ?_
  rwa [posting_sumUntil hdaily]

/-- The sum up to a day is there, and its tree reports the postings up to that day. -/
lemma exists_sumUntil (hdaily : spec.aggregation = .everyDay) {vs : List Voucher}
    (posted : Posted .rounding spec
      (contributions query (some (DateRange.upTo last).withUndated) vs) ps)
    (hadd : Addable (ps.map (·.amount.value))) {d : Date} (hd : d ≤ last) :
    ∃ root, subtotal .rounding (vs.map .ok) query (spec.sumUntil d)
        = .ok ⟨spec.levels, .sum, root⟩ ∧
      Group.Reports .rounding none spec.order spec.levels.length
        (ps.filter fun p => (DateRange.upTo d).withUndated.contains p.date?) root := by
  have hdays : (spec.sumUntil d).span? = .ok none := rfl
  have hps := postings_sumUntil hdaily posted hd
  rw [← VoucherStream.delivered_ok vs] at hps
  have hfit : Posting.Fit .rounding none
      (ps.filter fun p => (DateRange.upTo d).withUndated.contains p.date?) :=
    Posting.fit_of_addable Arithmetic.lossless_refines_rounding
      (hadd.of_sublist (List.filter_sublist.map _))
  obtain ⟨root, hs, reports, _⟩ := exists_reports hdays (VoucherStream.failure?_ok vs) hps hfit
  exact ⟨root, hs, reports⟩

/-- The total at a path is the sum of the amounts below it, if they can be added up. -/
lemma Group.Reports.balanceAt_eq (h : Group.Reports .rounding none order n ps g)
    (lengths : ∀ p ∈ ps, p.path.length = n) (hadd : Addable (ps.map (·.amount.value)))
    (path : List GroupKey) :
    (g.balanceAt path).value = ((Posting.below path ps).map (·.amount.value)).sum := by
  unfold balanceAt
  cases hd : g.descend? path with
  | none =>
    -- a group that is missing would have no postings
    have hnone : Posting.below path ps = [] := by
      by_contra hne
      obtain ⟨d, hd'⟩ := (h.exists_descend_iff lengths).2 (.inr hne)
      cases hd.symm.trans hd'
    simp [hnone]
  | some d =>
    obtain ⟨m, _, hpart⟩ := h.descend hd
    obtain ⟨t, ht, hv⟩ := Posting.exists_sum_below hadd path
    have htotal := Arithmetic.sum_confirmed Arithmetic.lossless_refines_rounding _ ht
    cases htotal.symm.trans hpart.sum_eq.1
    exact hv

/-! ### Agreement -/

/-- What the tree of running balances has to do with the trees of the sums up to single days. -/
structure Group.AgreesDaily (levels : List Level) (first last : Date) (root : Group)
    (sumUntil : Date → Group) : Prop where
  /-- It has the groups of the sum up to the last day, … -/
  exists_iff : ∀ path, (∃ g, root.descend? path = some g) ↔
    ∃ g, (sumUntil last).descend? path = some g
  /-- … with the same totals. -/
  total_eq : ∀ path g, root.descend? path = some g →
    g.total.sameValue ((sumUntil last).balanceAt path) = true
  /-- Undivided groups have a series, and no other ones. -/
  series_iff : ∀ path g, root.descend? path = some g → (g.series?.isSome = true ↔ g.isLeaf = true)
  /-- At the ends of full paths stand undivided groups. -/
  isLeaf : ∀ path g, root.descend? path = some g → path.length = levels.length → g.isLeaf = true
  /-- A series goes through the days of the span, one by one, … -/
  ordered : ∀ path g series, root.descend? path = some g → g.series? = some series →
    (series.points.map (·.date)).Pairwise (· < ·)
  mem_iff : ∀ path g series, root.descend? path = some g → g.series? = some series →
    ∀ d, d ∈ series.points.map (·.date) ↔ first ≤ d ∧ d ≤ last
  /-- … and tells at each of them the sum up to that day. -/
  balance_eq : ∀ path g series, root.descend? path = some g → g.series? = some series →
    ∀ point ∈ series.points,
      point.balance.sameValue ((sumUntil point.date).balanceAt path) = true

/-- The running balances are there, and their tree reports the postings up to the last day. -/
lemma exists_everyDay (hdaily : spec.aggregation = .everyDay) (hspan : spec.span = .ok (first, last))
    {vs : List Voucher} (posted : Posted .rounding spec
      (contributions query (some (DateRange.upTo last).withUndated) vs) ps)
    (hadd : Addable (ps.map (·.amount.value))) :
    ∃ root, subtotal .rounding (vs.map .ok) query spec = .ok ⟨spec.levels, .everyDay, root⟩ ∧
      Group.Reports .rounding (some (first, last)) spec.order spec.levels.length ps root := by
  obtain ⟨_, _, _, _, horder, _⟩ := ReportSpec.span_eq_ok.1 hspan
  have hdays : spec.span? = .ok (some (first, last)) :=
    ReportSpec.span?_eq_ok.2 (.inl ⟨hdaily, _, hspan, rfl⟩)
  have hps : postings .rounding query spec (VoucherStream.delivered (vs.map .ok)) = .ok ps := by
    rw [VoucherStream.delivered_ok, postings, ReportSpec.contributingRange?_of_span hdaily hspan]
    exact mapM_eq_ok.2 posted
  have hbelow : ∀ path, Addable ((Posting.below path ps).map (·.amount.value)) :=
    fun path => hadd.of_sublist (Posting.amounts_below_sublist path ps)
  have hfit : Posting.Fit .rounding (some (first, last)) ps := by
    intro path
    obtain ⟨t, ht, _⟩ := DailyTotals.exists_collect horder (hbelow path)
    exact ⟨_, ht⟩
  obtain ⟨s, hs⟩ := exists_subtotal hdays (VoucherStream.failure?_ok vs) hps hfit
    fun path tally isLeaf htally => by
      obtain ⟨t, ht, holds⟩ := DailyTotals.exists_collect horder (hbelow path)
      obtain ⟨total, series?, hc, _⟩ := holds.conclude horder (hbelow path) isLeaf
      cases ht.symm.trans htally
      exact ⟨_, hc⟩
  obtain ⟨qs, root, hqs, _, reports, _, rfl⟩ := reports_of_subtotal hdays hs
  obtain rfl := Except.ok.inj (hps.symm.trans hqs)
  rw [hdaily] at hs
  exact ⟨root, hs, reports⟩

/-- No posting of running balances lies after the last day. -/
lemma filter_contains_last (hdaily : spec.aggregation = .everyDay) {vs : List Voucher}
    (posted : Posted .rounding spec
      (contributions query (some (DateRange.upTo last).withUndated) vs) ps) :
    ps.filter (fun p => (DateRange.upTo last).withUndated.contains p.date?) = ps := by
  have hps : postings .rounding query (spec.sumUntil last) vs = .ok ps := by
    refine mapM_eq_ok.2 (posted.imp fun c p hp => ?_)
    rwa [posting_sumUntil hdaily]
  exact Except.ok.inj ((postings_sumUntil hdaily posted (Date.le_refl last)).symm.trans hps)

/-- Trees of the same postings agree. -/
lemma Group.Reports.agreesDaily {root : Group} {sumUntil : Date → Group} (horder : first ≤ last)
    (hadd : Addable (ps.map (·.amount.value)))
    (lengths : ∀ p ∈ ps, p.path.length = spec.levels.length)
    (hall : ps.filter (fun p => (DateRange.upTo last).withUndated.contains p.date?) = ps)
    (h : Group.Reports .rounding (some (first, last)) spec.order spec.levels.length ps root)
    (hsum : ∀ d, d ≤ last → Group.Reports .rounding none spec.order spec.levels.length
      (ps.filter fun p => (DateRange.upTo d).withUndated.contains p.date?) (sumUntil d)) :
    root.AgreesDaily spec.levels first last sumUntil := by
  have balanceAt_eq : ∀ d, d ≤ last → ∀ path, ((sumUntil d).balanceAt path).value
      = Posting.sumWhere ((DateRange.upTo d).withUndated.contains ·.date?) (Posting.below path ps) := by
    intro d hd path
    rw [(hsum d hd).balanceAt_eq (fun p hp => lengths p (List.mem_of_mem_filter hp))
      (hadd.of_sublist (List.filter_sublist.map _)), Posting.below_filter]
    rfl
  have daily : ∀ path g, root.descend? path = some g →
      g.total.value = Posting.sumWhere ((DateRange.upTo last).withUndated.contains ·.date?)
        (Posting.below path ps) ∧
      g.series?.isSome = g.isLeaf ∧
      ∀ series, g.series? = some series →
        DailyTotals.Tells first last (Posting.below path ps) series.points := by
    intro path g hg
    obtain ⟨m, _, hpart⟩ := h.descend hg
    exact hpart.daily horder (hadd.of_sublist (Posting.amounts_below_sublist path ps))
  refine
    { exists_iff := ?exists_iff
      total_eq := ?total_eq
      series_iff := ?series_iff
      isLeaf := ?isLeaf
      ordered := ?ordered
      mem_iff := ?mem_iff
      balance_eq := ?balance_eq }
  case exists_iff =>
    intro path
    have hlast := hsum last (Date.le_refl last)
    rw [hall] at hlast
    rw [h.exists_descend_iff lengths, hlast.exists_descend_iff lengths]
  case total_eq =>
    intro path g hg
    rw [Decimal.sameValue_iff, balanceAt_eq last (Date.le_refl last), (daily path g hg).1]
  case series_iff =>
    intro path g hg
    rw [(daily path g hg).2.1]
  case isLeaf =>
    intro path g hg hfull
    obtain ⟨m, hm, hpart⟩ := h.descend hg
    obtain rfl : m = 0 := by omega
    rw [Group.isLeaf, hpart.undivided, List.isEmpty_nil]
  case ordered =>
    intro path g series hg hs
    exact ((daily path g hg).2.2 series hs).ordered
  case mem_iff =>
    intro path g series hg hs
    exact ((daily path g hg).2.2 series hs).mem_iff
  case balance_eq =>
    intro path g series hg hs point hpoint
    have tells := (daily path g hg).2.2 series hs
    have hday := (tells.mem_iff point.date).1 (List.mem_map_of_mem hpoint)
    rw [Decimal.sameValue_iff, balanceAt_eq _ hday.2, tells.balance_eq point hpoint]

/-- On vouchers whose amounts up to the last day can be added up, the running balances over a span are
there, and so are the sums up to each day; and they agree. -/
theorem subtotal_everyDay_agrees (query : ResolvedQuery) (spec : ReportSpec) (vs : List Voucher)
    (first last : Date) (amounts : List Decimal) (hdaily : spec.aggregation = .everyDay)
    (hspan : spec.span = .ok (first, last))
    (hamounts : (contributions query (some (DateRange.upTo last).withUndated) vs).mapM
      (·.amount .rounding spec) = .ok amounts)
    (hadd : Addable (amounts.map Decimal.value)) :
    ∃ root sumUntil,
      subtotal .rounding (vs.map .ok) query spec = .ok ⟨spec.levels, .everyDay, root⟩ ∧
      (∀ d, d ≤ last → subtotal .rounding (vs.map .ok) query (spec.sumUntil d)
        = .ok ⟨spec.levels, .sum, sumUntil d⟩) ∧
      root.AgreesDaily spec.levels first last sumUntil := by
  obtain ⟨_, _, _, _, horder, _⟩ := ReportSpec.span_eq_ok.1 hspan
  obtain ⟨ps, posted⟩ := exists_posted hamounts
  obtain rfl := Except.ok.inj (hamounts.symm.trans posted.amounts)
  rw [List.map_map] at hadd
  obtain ⟨root, hroot, reports⟩ := exists_everyDay hdaily hspan posted hadd
  have hsums : ∀ d, ∃ sum, d ≤ last → subtotal .rounding (vs.map .ok) query (spec.sumUntil d)
        = .ok ⟨spec.levels, .sum, sum⟩ ∧
      Group.Reports .rounding none spec.order spec.levels.length
        (ps.filter fun p => (DateRange.upTo d).withUndated.contains p.date?) sum := by
    intro d
    by_cases hd : d ≤ last
    · obtain ⟨sum, hsum⟩ := exists_sumUntil hdaily posted hadd hd
      exact ⟨sum, fun _ => hsum⟩
    · exact ⟨root, fun h => absurd h hd⟩
  choose sumUntil hsumUntil using hsums
  refine ⟨root, sumUntil, hroot, fun d hd => (hsumUntil d hd).1, ?_⟩
  exact reports.agreesDaily horder hadd posted.path_length (filter_contains_last hdaily posted)
    fun d hd => (hsumUntil d hd).2

/-- The three days around the end of January, by account and currency. -/
def turnOfMonth : ReportSpec where
  levels := [.account, .currency]
  aggregation := .everyDay
  range? := some (.between .january30 .february1)
  order := .firstSeen
  itemized := false

set_option maxRecDepth 4000 in
theorem turnOfMonth_agrees :
    turnOfMonth.aggregation = .everyDay ∧
    turnOfMonth.span = .ok (.january30, .february1) ∧
    ∃ amounts, (contributions (.ofTree .all) (some (DateRange.upTo .february1).withUndated)
        [.payment, .sale, .refund]).mapM (·.amount .rounding turnOfMonth) = .ok amounts ∧
      Addable (amounts.map Decimal.value) ∧
      ∃ root sumUntil,
        subtotal .rounding ([.payment, .sale, .refund].map .ok) (.ofTree .all) turnOfMonth
          = .ok ⟨turnOfMonth.levels, .everyDay, root⟩ ∧
        (∀ d, d ≤ Date.february1 →
          subtotal .rounding ([.payment, .sale, .refund].map .ok) (.ofTree .all)
            (turnOfMonth.sumUntil d) = .ok ⟨turnOfMonth.levels, .sum, sumUntil d⟩) ∧
        root.AgreesDaily turnOfMonth.levels .january30 .february1 sumUntil := by
  obtain ⟨amounts, hamounts, hadd⟩ : ∃ amounts, (contributions (.ofTree .all)
      (some (DateRange.upTo .february1).withUndated) [.payment, .sale, .refund]).mapM
        (·.amount .rounding turnOfMonth) = .ok amounts ∧ Addable (amounts.map Decimal.value) :=
    ⟨_, rfl, Addable.of_mantissas (s := 2) (by decide) (by decide) (by decide)⟩
  exact ⟨rfl, rfl, amounts, hamounts, hadd, subtotal_everyDay_agrees (.ofTree .all) turnOfMonth
    [.payment, .sale, .refund] .january30 .february1 amounts rfl rfl hamounts hadd⟩

end Daybook
