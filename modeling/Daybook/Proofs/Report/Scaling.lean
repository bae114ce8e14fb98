import Daybook.Proofs.Report.Balance
import Daybook.Proofs.Report.Refinement
import Daybook.Proofs.Report.SameValues
import Daybook.Proofs.Template.Scaling

/-!
# Reports on multiples of a query

If all coefficients of a query are multiplied by a factor, so are all numbers of its reports: the totals, what
is carried in, the running balances and the listed coefficients (`ResolvedQuery.Times.timesReports`). The
groups, their keys and their order stay. So the coefficient that a name is resolved with is a factor of the
whole report (`TemplateTable.resolve_timesReports`).
-/

namespace Daybook

open Contribution

variable {x : ℚ} {days? : Option (Date × Date)} {order : GroupOrder} {n : ℕ} {ps ps' : List Posting}
  {query q q' : ResolvedQuery} {spec : ReportSpec} {g g' : Group}

/-! ### Multiples of reports -/

/-- The same entry is listed, with its coefficient times a factor. -/
structure EntryRef.Times (x : ℚ) (ref ref' : EntryRef) : Prop where
  voucherId?_eq : ref.voucherId? = ref'.voucherId?
  date?_eq : ref.date? = ref'.date?
  index_eq : ref.index = ref'.index
  value_coefficient : ref.coefficient.value = x * ref'.coefficient.value

/-- The groups have the same keys in the same places, and the numbers of the second ones times a factor. -/
inductive Group.Times (x : ℚ) : Group → Group → Prop
  | mk {key : GroupKey} {total total' : Decimal} {children children' : List Group}
      {entries entries' : List EntryRef} {series? series?' : Option DaySeries}
      (total_eq : total.value = x * total'.value)
      (parts : List.Forall₂ (Times x) children children')
      (entries_eq : List.Forall₂ (EntryRef.Times x) entries entries')
      (series_eq : series?.map DaySeries.values = series?'.map (DaySeries.valuesTimes x)) :
      Times x (.mk key total none children entries series?) (.mk key total' none children' entries' series?')

/-- A report on the first query has the keys of one on the second, and its numbers times a factor, wherever
both can be made without loss. -/
def ResolvedQuery.TimesReports (x : ℚ) (q q' : ResolvedQuery) : Prop :=
  ∀ (vs : List Voucher) (spec : ReportSpec), spec.aggregation ≠ .nonZero →
    (∃ days?, spec.span? = .ok days?) →
    (∀ o, subtotal .lossless (vs.map .ok) q spec ≠ .error (.overflow o)) →
    (∀ o, subtotal .lossless (vs.map .ok) q' spec ≠ .error (.overflow o)) →
    ∃ s s', subtotal .rounding (vs.map .ok) q spec = .ok s ∧
      subtotal .rounding (vs.map .ok) q' spec = .ok s' ∧
      s.levels = s'.levels ∧ s.aggregation = s'.aggregation ∧ s.root.Times x s'.root

/-! ### Multiples of postings -/

/-- The posting goes into the same group on the same date, with the amount of the other one times a
factor. -/
structure Posting.Times (x : ℚ) (p p' : Posting) : Prop where
  date?_eq : p.date? = p'.date?
  path_eq : p.path = p'.path
  value_amount : p.amount.value = x * p'.amount.value
  listed : Option.Rel (EntryRef.Times x) p.listed? p'.listed?

namespace Posting

/-- The postings are multiples one by one. -/
abbrev AllTimes (x : ℚ) : List Posting → List Posting → Prop := List.Forall₂ (Times x)

namespace AllTimes

lemma sumsTimes (h : AllTimes x ps ps') : SumsTimes x ps ps' := by
  intro P
  induction h with
  | nil => simp
  | cons hp _ ih =>
    rw [sumWhere_cons, sumWhere_cons, ih, hp.date?_eq, hp.value_amount]
    split <;> ring

lemma under (h : AllTimes x ps ps') (key : GroupKey) :
    AllTimes x (under key ps) (Posting.under key ps') := by
  refine List.rel_filterMap (fun p p' hp => ?_) h
  unfold enter?
  rw [hp.path_eq]
  split
  · exact .none
  · split
    · exact .some ⟨hp.date?_eq, rfl, hp.value_amount, hp.listed⟩
    · exact .none

lemma nextKeys_eq (h : AllTimes x ps ps') : nextKeys ps = nextKeys ps' := by
  have heads : ps.filterMap (·.path.head?) = ps'.filterMap (·.path.head?) := by
    induction h with
    | nil => rfl
    | cons hp _ ih => rw [List.filterMap_cons, List.filterMap_cons, hp.path_eq, ih]
  rw [nextKeys, nextKeys, heads]

lemma listings (h : AllTimes x ps ps') : List.Forall₂ (EntryRef.Times x)
    (ps.filterMap (·.listed?)) (ps'.filterMap (·.listed?)) :=
  List.rel_filterMap (fun _ _ hp => hp.listed) h

end AllTimes

end Posting

/-- Reports can follow multiples of postings, in whatever order the groups stand. -/
lemma Posting.followed_allTimes (x : ℚ) (order : GroupOrder) : Followed x order (AllTimes x) where
  sums h := h.sumsTimes
  keys h := by rw [h.nextKeys_eq]
  under h key := h.under key

/-- The postings decide on the numbers of a group in proportion to their amounts. -/
theorem Group.Reports.times (hdays : ∀ first last, days? = some (first, last) → first ≤ last)
    (htimes : Posting.AllTimes x ps ps') (h : Reports .lossless days? order n ps g)
    (h' : Reports .lossless days? order n ps' g') (hkey : g.key = g'.key) : g.Times x g' :=
  Reports.related (Posting.followed_allTimes x order) hdays
    (fun htimes htotal hseries => .mk htotal .nil htimes.listings hseries)
    (fun htotal parts hseries => .mk htotal parts .nil hseries) htimes h h' hkey

/-! ### Multiples of contributions -/

/-- The same entry of the same voucher is accepted, by a leaf that is a multiple. -/
structure Contribution.Times (x : ℚ) (c c' : Contribution) : Prop where
  voucher_eq : c.voucher = c'.voucher
  index_eq : c.selected.index = c'.selected.index
  entry_eq : c.selected.entry = c'.selected.entry
  leaf : c.selected.leaf.Times x c'.selected.leaf

namespace ResolvedQuery.Times

lemma accepted (h : q.Times x q') (v : Voucher) :
    List.Forall₂ (Contribution.Times x) (q.accepted v) (q'.accepted v) := by
  refine List.rel_flatMap h fun leaf leaf' hleaf => ?_
  simp only [hleaf.accepts_eq]
  rw [List.forall₂_map_left_iff, List.forall₂_map_right_iff, List.forall₂_same]
  exact fun _ _ => ⟨rfl, rfl, rfl, hleaf⟩

lemma contributions (h : q.Times x q') (range? : Option DateRange) (vs : List Voucher) :
    List.Forall₂ (Contribution.Times x) (contributions q range? vs)
      (Daybook.contributions q' range? vs) := by
  induction vs with
  | nil => exact .nil
  | cons v vs ih =>
    rw [contributions_cons, contributions_cons]
    refine List.rel_append ?_ ih
    split
    · exact h.accepted v
    · exact .nil

end ResolvedQuery.Times

lemma Contribution.Times.value_amount {c c' : Contribution} (h : c.Times x c') {a a' : Decimal}
    (ha : c.amount .lossless spec = .ok a) (ha' : c'.amount .lossless spec = .ok a') :
    a.value = x * a'.value := by
  unfold Contribution.amount Selected.amount at ha ha'
  split at ha <;> rename_i hcount
  · rw [if_pos hcount] at ha'
    cases ha
    cases ha'
    exact h.leaf.value_coefficient
  · rw [if_neg hcount] at ha'
    rw [(Arithmetic.lossless_mul.1 ha).2, (Arithmetic.lossless_mul.1 ha').2, h.entry_eq,
      h.leaf.value_coefficient]
    ring

lemma Contribution.Times.posting {c c' : Contribution} (h : c.Times x c') {p p' : Posting}
    (hp : c.posting .lossless spec = .ok p) (hp' : c'.posting .lossless spec = .ok p') :
    p.Times x p' := by
  obtain ⟨ha, hp⟩ := posting_eq_ok.1 hp
  obtain ⟨ha', hp'⟩ := posting_eq_ok.1 hp'
  have value := h.value_amount ha ha'
  rw [hp, hp']
  refine ⟨congrArg (·.date?) h.voucher_eq, ?_, value, ?_⟩
  · simp only [Contribution.path, Selected.path, h.voucher_eq, h.entry_eq]
  · dsimp only
    split
    · refine .some ⟨?_, ?_, h.index_eq, h.leaf.value_coefficient⟩
      · exact congrArg (·.id?) h.voucher_eq
      · exact congrArg (·.date?) h.voucher_eq
    · exact .none

lemma Posting.AllTimes.of_posted {cs cs' : List Contribution}
    (h : List.Forall₂ (Contribution.Times x) cs cs') (hps : Posted .lossless spec cs ps)
    (hps' : Posted .lossless spec cs' ps') : AllTimes x ps ps' := by
  induction h generalizing ps ps' with
  | nil =>
    cases hps
    cases hps'
    exact .nil
  | cons hc _ ih =>
    obtain _ | ⟨hp, hps⟩ := hps
    obtain _ | ⟨hp', hps'⟩ := hps'
    exact .cons (hc.posting hp hp') (ih hps hps')

/-! ### Reports -/

/-- A multiple of a query has the multiple of its reports. -/
theorem ResolvedQuery.Times.timesReports (h : q.Times x q') : q.TimesReports x q' := by
  rintro vs spec hkept ⟨days?, hdays⟩ fits fits'
  obtain ⟨s, hs⟩ := exists_subtotal_of_no_overflow hdays fits
  obtain ⟨s', hs'⟩ := exists_subtotal_of_no_overflow hdays fits'
  have rounds := subtotal_confirmed Arithmetic.lossless_refines_rounding (vs.map .ok)
  refine ⟨s, s', rounds q spec hs, rounds q' spec hs', ?_⟩
  obtain ⟨ps, g, hps, _, reports, hroot, rfl⟩ := reports_of_subtotal hdays hs
  obtain ⟨ps', g', hps', _, reports', hroot', rfl⟩ := reports_of_subtotal hdays hs'
  rw [VoucherStream.delivered_ok] at hps hps'
  have htimes : Posting.AllTimes x ps ps' :=
    .of_posted (h.contributions _ vs) (mapM_eq_ok.1 hps) (mapM_eq_ok.1 hps')
  refine ⟨rfl, rfl, ?_⟩
  rw [if_neg hkept, if_neg hkept]
  exact reports.times (ReportSpec.le_of_span? hdays) htimes reports' (hroot.trans hroot'.symm)

/-- The coefficient that a name of an accepted table is resolved with is a factor of its reports: they have the
keys of the reports for one, and their numbers times the coefficient. The same numbers come out if the query
for one is multiplied afterwards. An unknown name is refused in both cases. -/
theorem TemplateTable.resolve_timesReports {templates : List Template} {t : TemplateTable}
    (h : ofTemplates templates = .ok t) (name : String) (k : Decimal)
    (inherited? : Option DateRange)
    (fits : ∀ o, t.resolve .lossless name k inherited? ≠ .error (.overflow o))
    (fitsOne : ∀ o, t.resolve .lossless name .one inherited? ≠ .error (.overflow o)) :
    SameOutcome (fun q one => q.TimesReports k.value one ∧
        ((∀ o, one.scaled .lossless k ≠ .error o) →
          ∃ scaled, one.scaled .rounding k = .ok scaled ∧ scaled.TimesReports 1 q))
      (t.resolve .rounding name k inherited?) (t.resolve .rounding name .one inherited?) := by
  obtain ⟨rfl, hnames, hcheck⟩ := ofTemplates_eq_ok.1 h
  by_cases hname : ∃ template ∈ templates, template.name = name
  · obtain ⟨template, hmem, rfl⟩ := hname
    obtain ⟨q, hq⟩ := exists_resolve hnames hcheck hmem fits
    obtain ⟨one, hone⟩ := exists_resolve hnames hcheck hmem fitsOne
    have rounds := resolve_confirmed Arithmetic.lossless_refines_rounding ⟨templates⟩ template.name
    have times : q.Times k.value one := resolve_times hq hone (by simp [Decimal.value, Decimal.one])
    rw [rounds k inherited? hq, rounds .one inherited? hone]
    refine .ok ⟨times.timesReports, fun fitsScaled => ?_⟩
    cases hscaled : one.scaled .lossless k with
    | error o => exact absurd hscaled (fitsScaled o)
    | ok scaled =>
      have same : scaled.Times 1 q := (ResolvedQuery.scaled_times hscaled).one_of_common times
      exact ⟨scaled, one.scaled_confirmed Arithmetic.lossless_refines_rounding k hscaled,
        same.timesReports⟩
  · have missing : get? ⟨templates⟩ name = none := by
      rw [get?, List.find?_eq_none]
      exact fun template hmem => by simpa using fun heq => hname ⟨template, hmem, heq⟩
    rw [resolve, resolve, missing]
    exact .error _

/-- What the template for what was there before February comes to with a coefficient. -/
def earlierWith (coefficient : Decimal) : ResolvedQuery :=
  ⟨[⟨.all, coefficient, some (.upTo .january30), ["old", "all"]⟩]⟩

/-- Minus a tenth. -/
def Decimal.minusTenth : Decimal :=
  ⟨-1, 1, false, minusOne.mantissa_lt, tenth.scale_le, minusOne.eq_zero_of_minusZero⟩

/-- Minus a fifth. -/
def Decimal.minusFifth : Decimal :=
  ⟨-2, 1, false, minusTwo.mantissa_lt, tenth.scale_le, minusTwo.eq_zero_of_minusZero⟩

lemma resolve_earlier {k a b c : Decimal} (ha : Arithmetic.lossless.mul k .minusOne = .ok a)
    (hb : Arithmetic.lossless.mul a .one = .ok b) (hc : Arithmetic.lossless.mul b .two = .ok c) :
    TemplateTable.resolve .lossless ⟨changeTemplates⟩ "old" k none = .ok (earlierWith c) := by
  have old : TemplateTable.get? ⟨changeTemplates⟩ "old" = some .earlier := rfl
  have all : TemplateTable.get? ⟨changeTemplates⟩ "all" = some .everything := rfl
  rw [TemplateTable.resolve_of_get? old]
  simp [Template.earlier, Template.everything, Template.effectiveRange, TemplateTable.expand,
    TemplateTable.expand_reference _ all, ha, hb, hc, earlierWith]

/-- A tenth of what was there before February has a tenth of its running balances. -/
theorem earlier_tenth :
    TemplateTable.ofTemplates changeTemplates = .ok ⟨changeTemplates⟩ ∧
    (∀ o, TemplateTable.resolve .lossless ⟨changeTemplates⟩ "old" .tenth none
      ≠ .error (.overflow o)) ∧
    (∀ o, TemplateTable.resolve .lossless ⟨changeTemplates⟩ "old" .one none
      ≠ .error (.overflow o)) ∧
    TemplateTable.resolve .rounding ⟨changeTemplates⟩ "old" .tenth none
      = .ok (earlierWith .minusFifth) ∧
    TemplateTable.resolve .rounding ⟨changeTemplates⟩ "old" .one none
      = .ok (earlierWith .minusTwo) ∧
    ∃ s s', subtotal .rounding ([.deposit, .sale].map .ok) (earlierWith .minusFifth) turnOfMonth
        = .ok s ∧
      subtotal .rounding ([.deposit, .sale].map .ok) (earlierWith .minusTwo) turnOfMonth = .ok s' ∧
      s.root.Times Decimal.tenth.value s'.root ∧
      ∃ scaled s'', (earlierWith .minusTwo).scaled .rounding .tenth = .ok scaled ∧
        subtotal .rounding ([.deposit, .sale].map .ok) scaled turnOfMonth = .ok s'' ∧
        s''.root.Times 1 s.root := by
  have accepted : TemplateTable.ofTemplates changeTemplates = .ok ⟨changeTemplates⟩ := by cbv
  have tenth : TemplateTable.resolve .lossless ⟨changeTemplates⟩ "old" .tenth none
      = .ok (earlierWith .minusFifth) :=
    resolve_earlier (a := .minusTenth) (b := .minusTenth) (by decide +kernel) (by decide +kernel)
      (by decide +kernel)
  have once : TemplateTable.resolve .lossless ⟨changeTemplates⟩ "old" .one none
      = .ok (earlierWith .minusTwo) :=
    resolve_earlier (a := .minusOne) (b := .minusOne) (by decide +kernel) (by decide +kernel)
      (by decide +kernel)
  have scaled : (earlierWith .minusTwo).scaled .lossless .tenth = .ok (earlierWith .minusFifth) := by
    have product : Arithmetic.lossless.mul .minusTwo .tenth = .ok .minusFifth := by decide +kernel
    simp [ResolvedQuery.scaled, earlierWith, product]
  have fits : ∀ coefficient ∈ [Decimal.minusFifth, .minusTwo], ∀ o,
      subtotal .lossless ([.deposit, .sale].map .ok) (earlierWith coefficient) turnOfMonth
        ≠ .error (.overflow o) := by
    have isOk : ∀ coefficient ∈ [Decimal.minusFifth, .minusTwo], (subtotal .lossless
        ([.deposit, .sale].map .ok) (earlierWith coefficient) turnOfMonth).isOk = true := by
      decide +kernel
    exact fun coefficient hmem o => ne_error_of_isOk (isOk coefficient hmem) _
  have fitsTenth := fun o => ne_error_of_eq_ok tenth (.overflow o)
  have fitsOnce := fun o => ne_error_of_eq_ok once (.overflow o)
  have rounds := TemplateTable.resolve_confirmed Arithmetic.lossless_refines_rounding
    ⟨changeTemplates⟩ "old"
  have outcome := TemplateTable.resolve_timesReports accepted "old" .tenth none fitsTenth fitsOnce
  rw [rounds _ _ tenth, rounds _ _ once] at outcome
  cases outcome with
  | ok h =>
    obtain ⟨times, afterwards⟩ := h
    obtain ⟨s, s', hs, hs', _, _, htimes⟩ := times [.deposit, .sale] turnOfMonth (by decide)
      ⟨_, rfl⟩ (fits _ (by simp)) (fits _ (by simp))
    obtain ⟨q, hq, same⟩ := afterwards (ne_error_of_eq_ok scaled)
    have hq' := (earlierWith .minusTwo).scaled_confirmed Arithmetic.lossless_refines_rounding
      .tenth scaled
    cases hq.symm.trans hq'
    obtain ⟨s'', t, hs'', ht, _, _, hsame⟩ := same [.deposit, .sale] turnOfMonth (by decide)
      ⟨_, rfl⟩ (fits _ (by simp)) (fits _ (by simp))
    cases ht.symm.trans hs
    exact ⟨accepted, fitsTenth, fitsOnce, rounds _ _ tenth, rounds _ _ once, s, s', hs, hs', htimes,
      _, s'', hq, hs'', hsame⟩

end Daybook
