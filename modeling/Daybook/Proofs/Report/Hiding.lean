import Daybook.Proofs.Report.Cut
import Daybook.Proofs.Report.Missing
import Daybook.Proofs.Report.Pair
import Daybook.Proofs.Report.Refinement

/-!
# Hiding what comes to zero

A report of sums can hide the groups that come to zero. `HidingKeepsTotal` says of a list of levels that
the total in the reporting currency is not changed by that, whatever the vouchers, the query and the rates
are. It holds if the currency is the first level and there are no levels of dates
(`hidingKeepsTotal_of_dateless`). Otherwise some group takes in amounts that are converted at different
rates, and that may offset each other before they are converted (`not_hidingKeepsTotal_of_offset`).
-/

namespace Daybook

open Contribution Consolidation

variable {A : Arithmetic} {query : ResolvedQuery} {spec : ReportSpec} {stream : VoucherStream}
  {plan : Plan} {levels : List Level} {range? : Option DateRange} {order : GroupOrder}
  {itemized : Bool} {total? : Option Decimal} {root : Group}

/-- The total of a report in the reporting currency. -/
def grandTotal? (A : Arithmetic) (stream : VoucherStream) (query : ResolvedQuery) (spec : ReportSpec)
    (plan : Plan) : Except (Fault ReportError) (Option Decimal) := do
  let s ← subtotal A stream query spec
  return (← consolidate A s plan).grandTotal?

/-- The amount that is contributed has no places beyond those that decide whether a total counts as
zero. -/
def Contribution.InPlaces (c : Contribution) : Prop :=
  Decimal.HasPlaces Group.zeroPlaces
    (c.selected.entry.amount.value * c.selected.leaf.coefficient.value)

lemma Contribution.inPlaces_of_scales {cs : List Contribution} (h : ∀ c ∈ cs,
    c.selected.entry.amount.scale + c.selected.leaf.coefficient.scale ≤ Group.zeroPlaces) :
    ∀ c ∈ cs, c.InPlaces :=
  fun c hc => Decimal.hasPlaces_mul (h c hc)

/-- Hiding what comes to zero keeps the total: if all amounts have at most eight places and the total of
the report of sums is there without rounding, the report that hides what comes to zero has it, too. -/
def HidingKeepsTotal (levels : List Level) : Prop :=
  ∀ (vs : List Voucher) (query : ResolvedQuery) (range? : Option DateRange) (order : GroupOrder)
    (itemized : Bool) (plan : Plan) (t : Decimal),
    (∀ c ∈ contributions query range? vs, c.InPlaces) →
    grandTotal? .lossless (vs.map .ok) query ⟨levels, .sum, range?, order, itemized⟩ plan
      = .ok (some t) →
    ∃ t', grandTotal? .rounding (vs.map .ok) query ⟨levels, .nonZero, range?, order, itemized⟩ plan
      = .ok (some t') ∧ t'.sameValue t = true

/-! ### Grand totals -/

/-- With a level of currencies, the root of a report of amounts is converted. -/
lemma grandTotal?_consolidate {s : Subtotal} (hcur : .currency ∈ s.levels)
    (hcount : s.aggregation ≠ .count) : (·.grandTotal?) <$> consolidate A s plan
      = liftOverflow (convertedTotal A plan .root s.levels s.root) := by
  unfold consolidate convertedTotal
  rw [if_neg (by simpa using hcur), if_neg hcount]
  cases convert A plan .root s.levels s.root <;> rfl

/-- The grand total of a report is there if the report is and its root has a converted total. -/
lemma grandTotal?_eq_ok (hdays : spec.span? = .ok none) (hcur : .currency ∈ spec.levels)
    (hcount : spec.aggregation ≠ .count) :
    grandTotal? A stream query spec plan = .ok total? ↔ ∃ root,
      subtotal A stream query spec = .ok ⟨spec.levels, spec.aggregation, root⟩ ∧
      convertedTotal A plan .root spec.levels root = .ok total? := by
  have grandTotal_of_subtotal : ∀ s, subtotal A stream query spec = .ok s →
      ∃ root, s = ⟨spec.levels, spec.aggregation, root⟩ := by
    intro s hs
    obtain ⟨_, g, _, _, _, _, rfl⟩ := reports_of_subtotal hdays hs
    exact ⟨_, rfl⟩
  have converted : ∀ root,
      (·.grandTotal?) <$> consolidate A ⟨spec.levels, spec.aggregation, root⟩ plan
        = liftOverflow (convertedTotal A plan .root spec.levels root) :=
    fun root => grandTotal?_consolidate hcur hcount
  constructor
  · intro h
    obtain ⟨s, hs, h⟩ := bind_eq_ok.1 h
    obtain ⟨root, rfl⟩ := grandTotal_of_subtotal s hs
    refine ⟨root, hs, ?_⟩
    rw [← liftOverflow_eq_ok (ε := ReportError), ← converted root]
    exact h
  · rintro ⟨root, hs, h⟩
    rw [← liftOverflow_eq_ok (ε := ReportError), ← converted root] at h
    exact bind_eq_ok.2 ⟨_, hs, h⟩

/-! ### Sums and sums without zeros -/

/-- A report of sums without loss is there with zeros hidden, too, and its tree is pruned. -/
theorem subtotal_nonZero
    (h : subtotal .lossless stream query ⟨levels, .sum, range?, order, itemized⟩
      = .ok ⟨levels, .sum, root⟩) :
    subtotal .rounding stream query ⟨levels, .nonZero, range?, order, itemized⟩
      = .ok ⟨levels, .nonZero, root.prune⟩ := by
  have rounded := subtotal_confirmed Arithmetic.lossless_refines_rounding stream query _ h
  have pruned := subtotal_nonZero_eq .rounding stream query ⟨levels, .sum, range?, order, itemized⟩
  rw [pruned, rounded]
  rfl

/-! ### Currency first, and no dates -/

/-- A report that is divided by currency first, and by no dates, reports its postings by currency. -/
lemma byCurrency_of_postings {vs : List Voucher} {ps : List Posting} {aggregation : Aggregation}
    (dateless : ∀ l ∈ levels, l.period? = none)
    (hps : postings A query ⟨.currency :: levels, aggregation, range?, order, itemized⟩ vs = .ok ps)
    (reports : Group.Reports .lossless none order (levels.length + 1) ps root) :
    ByCurrency order levels ps root :=
  ⟨reports, exists_keys_of_postings hps, dateless⟩

/-- The postings have as few places as the contributions. -/
lemma inPlaces_of_postings {vs : List Voucher} {ps : List Posting}
    (hps : postings .lossless query ⟨levels, .sum, range?, order, itemized⟩ vs = .ok ps)
    (places : ∀ c ∈ contributions query range? vs, c.InPlaces) : Posting.InPlaces ps := by
  intro q hq
  rw [postings, ReportSpec.contributingRange?_of_ne (by simp)] at hps
  obtain ⟨c, hc, hposting⟩ := Posted.exists_of_mem (mapM_eq_ok.1 hps) hq
  rw [(Arithmetic.lossless_mul.1 (posting_eq_ok.1 hposting).1).2]
  exact places c hc

/-- With the currency as the first level, and without levels of dates, hiding keeps the total. -/
theorem hidingKeepsTotal_of_dateless (dateless : ∀ l ∈ levels, l.period? = none) :
    HidingKeepsTotal (.currency :: levels) := by
  intro vs query range? order itemized plan t places ht
  have hcur : Level.currency ∈ Level.currency :: levels := List.mem_cons_self
  obtain ⟨root, hroot, ht⟩ := (grandTotal?_eq_ok rfl hcur (by simp)).1 ht
  obtain ⟨ps, g, hps, _, reports, _, hs⟩ := reports_of_subtotal rfl hroot
  cases hs
  rw [VoucherStream.delivered_ok] at hps
  have byCurrency := byCurrency_of_postings dateless hps reports
  obtain ⟨t', ht', hlike⟩ := byCurrency.pruneKeeps (inPlaces_of_postings hps places) t ht
  refine ⟨t', (grandTotal?_eq_ok rfl hcur (by simp)).2 ⟨g.prune, subtotal_nonZero hroot, ht'⟩, ?_⟩
  rw [Decimal.sameValue_iff, hlike.value_eq]

/-! ### Amounts that offset each other -/

/-- Where the entry of a single voucher goes. -/
def Posting.single (levels : List Level) (date : Date) (currency : String) (amount : Decimal) :
    Posting where
  date? := some date
  amount := amount
  path := levels.map (·.key (.single currency amount) (.single date currency amount))
  listed? := none

section

variable {l : Level} {d₁ d₂ : Date} {cur₁ cur₂ : String}

lemma postings_offset : postings .lossless (.ofTree .all) ⟨levels, .sum, none, .firstSeen, false⟩
    [.single d₁ cur₁ .one, .single d₂ cur₂ .minusOne]
      = .ok [.single levels d₁ cur₁ .one, .single levels d₂ cur₂ .minusOne] := by
  have mul_one : Arithmetic.lossless.mul .one .one = .ok .one := by decide +kernel
  have mul_minusOne : Arithmetic.lossless.mul .minusOne .one = .ok .minusOne := by decide +kernel
  rw [postings, mapM_eq_ok]
  exact .cons (posting_eq_ok.2 ⟨mul_one, rfl⟩) (.cons (posting_eq_ok.2 ⟨mul_minusOne, rfl⟩) .nil)

lemma inPlaces_offset : ∀ c ∈ contributions (.ofTree .all) none
    [.single d₁ cur₁ .one, .single d₂ cur₂ .minusOne], c.InPlaces := by
  apply inPlaces_of_scales
  refine List.forall_mem_cons.2 ⟨?_, List.forall_mem_cons.2 ⟨?_, by simp⟩⟩
  · show Decimal.one.scale + Decimal.one.scale ≤ 8
    decide
  · show Decimal.minusOne.scale + Decimal.one.scale ≤ 8
    decide

lemma addable_offset : Addable ([Posting.single levels d₁ cur₁ .one,
    .single levels d₂ cur₂ .minusOne].map (·.amount.value)) :=
  @Addable.of_mantissas [.one, .minusOne] 0 (by decide) (by decide) (by decide)

lemma exists_reports_offset (levels : List Level) (d₁ d₂ : Date) (cur₁ cur₂ : String) :
    ∃ g, subtotal .lossless ([.single d₁ cur₁ .one, .single d₂ cur₂ .minusOne].map .ok) (.ofTree .all)
        ⟨levels, .sum, none, .firstSeen, false⟩ = .ok ⟨levels, .sum, g⟩ ∧
      Group.Reports .lossless none .firstSeen levels.length
        [.single levels d₁ cur₁ .one, .single levels d₂ cur₂ .minusOne] g := by
  have hps := @postings_offset levels d₁ d₂ cur₁ cur₂
  rw [← VoucherStream.delivered_ok [.single d₁ cur₁ .one, .single d₂ cur₂ .minusOne]] at hps
  obtain ⟨g, hs, reports, _⟩ := exists_reports rfl (VoucherStream.failure?_ok _) hps
    (Posting.fit_of_addable (.refl _) addable_offset)
  exact ⟨g, hs, reports⟩

/-- If both entries have the same first key, nothing is left once zeros are hidden. -/
lemma prune_offset {g : Group}
    (reports : Group.Reports .lossless none .firstSeen (levels.length + 1)
      [.single (l :: levels) d₁ cur₁ .one, .single (l :: levels) d₂ cur₂ .minusOne] g)
    (same : l.key (.single cur₁ .one) (.single d₁ cur₁ .one)
      = l.key (.single cur₂ .minusOne) (.single d₂ cur₂ .minusOne)) : g.prune.children = [] := by
  have lengths : ∀ q ∈ [Posting.single (l :: levels) d₁ cur₁ .one,
      .single (l :: levels) d₂ cur₂ .minusOne], q.path.length = levels.length + 1 :=
    path_length_of_postings postings_offset
  have hkeys : Posting.nextKeys [.single (l :: levels) d₁ cur₁ .one,
      .single (l :: levels) d₂ cur₂ .minusOne] = [l.key (.single cur₁ .one) (.single d₁ cur₁ .one)] := by
    simp [Posting.nextKeys, Posting.single, Voucher.distinct, same]
  obtain ⟨c, hc, _, hpart⟩ := exists_child_of_nextKeys reports lengths hkeys
  have hsum := Posting.sum_parts fun q hq => List.ne_nil_of_length_eq_add_one (lengths q hq)
  rw [hkeys, List.map_singleton, List.sum_singleton, ← hpart.value_total] at hsum
  have hzero : c.total.isZero = true := by
    rw [Decimal.isZero_iff, hsum]
    simp [Posting.single, Decimal.value, Decimal.one, Decimal.minusOne]
  rw [Group.children_prune, hc, Group.pruneAll_eq_nil]
  simpa using Decimal.vanishesAt_of_isZero hzero Group.zeroPlaces

/-- An undivided root can only come to zero. -/
lemma convertedTotal_root {g : Group} {t : Decimal} (undivided : g.children = [])
    (h : convertedTotal A plan .root levels g = .ok (some t)) : t = Decimal.zero := by
  rw [convertedTotal_leaf undivided] at h
  cases hg : g.total.isZero <;> simp [convertTotal, Position.root, hg] at h
  exact h.symm

/-- Hiding loses the total of two vouchers whose amounts offset each other inside of the first group, but
are converted at different rates. -/
lemma not_hidingKeepsTotal_of_offset (plan : Plan) (d₁ d₂ : Date) (cur₁ cur₂ : String)
    (hcur : .currency ∈ l :: levels)
    (same : l.key (.single cur₁ .one) (.single d₁ cur₁ .one)
      = l.key (.single cur₂ .minusOne) (.single d₂ cur₂ .minusOne))
    (differ : ∃ l' ∈ l :: levels, l'.key (.single cur₁ .one) (.single d₁ cur₁ .one)
      ≠ l'.key (.single cur₂ .minusOne) (.single d₂ cur₂ .minusOne))
    (hone : (·.1) <$> convertTotal .lossless plan (Position.root.follow (l :: levels)
      (Posting.single (l :: levels) d₁ cur₁ .one).path) .one = .ok (some .one))
    (htwo : (·.1) <$> convertTotal .lossless plan (Position.root.follow (l :: levels)
      (Posting.single (l :: levels) d₂ cur₂ .minusOne).path) .minusOne = .ok (some .minusTwo)) :
    ¬ HidingKeepsTotal (l :: levels) := by
  intro h
  obtain ⟨g, hs, reports⟩ := exists_reports_offset (l :: levels) d₁ d₂ cur₁ cur₂
  -- somewhere the two paths part, so that the amounts are converted apart
  have hpaths : (Posting.single (l :: levels) d₁ cur₁ .one).path
      ≠ (Posting.single (l :: levels) d₂ cur₂ .minusOne).path := by
    obtain ⟨l', hl', hkey⟩ := differ
    intro hpath
    rw [Posting.single, Posting.single, List.map_inj_left] at hpath
    exact hkey (hpath l' hl')
  have hadd : Arithmetic.lossless.add .one .minusTwo = .ok .minusOne := by decide +kernel
  have htotal : convertedTotal .lossless plan .root (l :: levels) g = .ok (some .minusOne) :=
    convertedTotal_pair reports (List.length_map ..) (List.length_map ..) hpaths hone htwo hadd
  obtain ⟨t', ht', hsame⟩ := h _ _ _ _ _ plan _ inPlaces_offset
    ((grandTotal?_eq_ok rfl hcur (by simp)).2 ⟨g, hs, htotal⟩)
  obtain ⟨root, hroot, ht'⟩ := (grandTotal?_eq_ok rfl hcur (by simp)).1 ht'
  cases (subtotal_nonZero hs).symm.trans hroot
  rw [convertedTotal_root (prune_offset reports same) ht'] at hsame
  revert hsame
  decide

lemma currency?_single (hcur : .currency ∈ levels) (d : Date) (cur : String) (amount : Decimal) :
    (Position.root.follow levels (Posting.single levels d cur amount).path).currency? = some cur :=
  Position.currency?_follow (.inl hcur)

lemma exists_date?_single (hdates : ∃ l ∈ levels, l.period? ≠ none) (d : Date) (cur : String)
    (amount : Decimal) : ∃ period : Period,
      (Position.root.follow levels (Posting.single levels d cur amount).path).date?
        = some (period.endOf (period.startOf d)) :=
  Position.exists_date?_follow rfl (.inl hdates)

/-- Inside of a group that is not divided off by currency, amounts in two currencies may offset each
other. -/
lemma not_hidingKeepsTotal_of_head (hl : l ≠ .currency) (hcur : .currency ∈ levels) :
    ¬ HidingKeepsTotal (l :: levels) := by
  have hcur : Level.currency ∈ l :: levels := List.mem_cons_of_mem l hcur
  have hmul : Arithmetic.lossless.mul .minusOne .two = .ok .minusTwo := by decide +kernel
  -- one yuan against one dollar, which is worth two
  refine not_hidingKeepsTotal_of_offset ⟨"CNY", fun _ _ _ => .ok .two, .january30⟩
    .january30 .january30 "CNY" "USD" hcur ?_ ?_ ?_ ?_
  · cases l with
    | currency => exact absurd rfl hl
    | account | subaccount | content | remark | owner | kind | period => rfl
  · exact ⟨.currency, hcur, by decide⟩
  · have h := currency?_single hcur .january30 "CNY" .one
    exact (convertTotal_eq_some h).2 ⟨none, by rw [Plan.rateAt?, h]; rfl, rfl⟩
  · have h := currency?_single hcur .january30 "USD" .minusOne
    exact (convertTotal_eq_some h).2 ⟨some .two, by rw [Plan.rateAt?, h]; rfl, hmul⟩

/-- No period has the end of this January and a day two years later. -/
lemma Period.apart (period : Period) :
    period.startOf .january30 ≠ period.startOf .january2028 ∧
      period.endOf (period.startOf .january30) < Date.january2028 ∧
      ¬ period.endOf (period.startOf .january2028) < Date.january2028 := by
  cases period <;> decide +kernel

/-- Inside of a group that dates divide further on, amounts of two dates may offset each other. -/
lemma not_hidingKeepsTotal_of_dates (dated : ∃ l ∈ levels, l.period? ≠ none) :
    ¬ HidingKeepsTotal (.currency :: levels) := by
  have hcur : Level.currency ∈ Level.currency :: levels := List.mem_cons_self
  have hmul : Arithmetic.lossless.mul .one .one = .ok .one := by decide +kernel
  have hmul' : Arithmetic.lossless.mul .minusOne .two = .ok .minusTwo := by decide +kernel
  have dated' : ∃ l ∈ Level.currency :: levels, l.period? ≠ none :=
    dated.imp fun l hl => ⟨List.mem_cons_of_mem _ hl.1, hl.2⟩
  -- a dollar at one against a dollar two years later, at two
  refine not_hidingKeepsTotal_of_offset
    ⟨"CNY", fun d _ _ => .ok (if d < .january2028 then .one else .two), .january30⟩
    .january30 .january2028 "USD" "USD" hcur rfl ?_ ?_ ?_
  · obtain ⟨l, hl, hperiod⟩ := dated'
    refine ⟨l, hl, ?_⟩
    cases l with
    | period q => simpa [Level.key, Voucher.single] using q.apart.1
    | currency | account | subaccount | content | remark | owner | kind => exact absurd rfl hperiod
  · have h := currency?_single hcur .january30 "USD" .one
    obtain ⟨q, hdate⟩ := exists_date?_single dated' .january30 "USD" .one
    refine (convertTotal_eq_some h).2 ⟨some .one, ?_, hmul⟩
    simp [Plan.rateAt?, h, hdate, q.apart.2.1]
  · have h := currency?_single hcur .january2028 "USD" .minusOne
    obtain ⟨q, hdate⟩ := exists_date?_single dated' .january2028 "USD" .minusOne
    refine (convertTotal_eq_some h).2 ⟨some .two, ?_, hmul'⟩
    simp [Plan.rateAt?, h, hdate, q.apart.2.2]

end

/-! ### When hiding keeps the total -/

/-- Among the lists with a level of currencies, hiding keeps the total for those that begin with it and
have no levels of dates, and for no other ones. -/
theorem hidingKeepsTotal_iff (levels : List Level) (hcur : .currency ∈ levels) :
    HidingKeepsTotal levels ↔ levels.head? = some .currency ∧ ∀ l ∈ levels, l.period? = none := by
  obtain _ | ⟨l, levels⟩ := levels
  · cases hcur
  · -- by the first level: the currency or another one
    by_cases hl : l = .currency
    · subst hl
      constructor
      · intro h
        refine ⟨rfl, List.forall_mem_cons.2 ⟨rfl, ?_⟩⟩
        by_contra! dated
        exact not_hidingKeepsTotal_of_dates dated h
      · rintro ⟨_, dateless⟩
        exact hidingKeepsTotal_of_dateless (List.forall_mem_cons.1 dateless).2
    · constructor
      · intro h
        have hmem : .currency ∈ levels := (List.mem_cons.1 hcur).resolve_left (Ne.symm hl)
        exact absurd h (not_hidingKeepsTotal_of_head hl hmem)
      · rintro ⟨hhead, _⟩
        exact absurd (Option.some.inj hhead) hl

/-- A dollar at seven. -/
def sevenPerDollar : Plan where
  currency := "CNY"
  rates := fun _ _ _ => .ok ⟨7, 0, false, by decide, Decimal.zero.scale_le, nofun⟩
  asOf := .january30

/-- A hundred that is settled in one currency is hidden; what is left in the other one keeps its worth. -/
theorem settlement_hidden_by_currency : Level.currency ∈ [Level.currency, .account] ∧
    ∃ t, grandTotal? .rounding ([.exchange, .settlement].map .ok) (.ofTree .all)
        ⟨[.currency, .account], .nonZero, none, .firstSeen, false⟩ sevenPerDollar = .ok (some t) ∧
      t.sameValue ⟨-700, 0, false, by decide, by decide, nofun⟩ = true := by
  have places : ∀ c ∈ contributions (.ofTree .all) none [.exchange, .settlement], c.InPlaces :=
    inPlaces_of_scales (by decide)
  have total : grandTotal? .lossless ([.exchange, .settlement].map .ok) (.ofTree .all)
      ⟨[.currency, .account], .sum, none, .firstSeen, false⟩ sevenPerDollar
        = .ok (some ⟨-700, 0, false, by decide, by decide, nofun⟩) := by decide +kernel
  refine ⟨by decide, ?_⟩
  exact (hidingKeepsTotal_iff [.currency, .account] (by decide)).2 ⟨rfl, by decide⟩
    [.exchange, .settlement] (.ofTree .all) none .firstSeen false sevenPerDollar _ places total

/-- By account first, a hundred of one currency hides a hundred of another, whatever they are worth. -/
theorem exchange_hidden_by_account : Level.currency ∈ [Level.account, .currency] ∧
    (∀ c ∈ contributions (.ofTree .all) none [.exchange], c.InPlaces) ∧
    grandTotal? .lossless ([.exchange].map .ok) (.ofTree .all)
        ⟨[.account, .currency], .sum, none, .firstSeen, false⟩ sevenPerDollar
      = .ok (some ⟨-600, 0, false, by decide, by decide, nofun⟩) ∧
    ¬ ∃ t, grandTotal? .rounding ([.exchange].map .ok) (.ofTree .all)
        ⟨[.account, .currency], .nonZero, none, .firstSeen, false⟩ sevenPerDollar = .ok (some t) ∧
      t.sameValue ⟨-600, 0, false, by decide, by decide, nofun⟩ = true := by
  have hidden : grandTotal? .rounding ([.exchange].map .ok) (.ofTree .all)
      ⟨[.account, .currency], .nonZero, none, .firstSeen, false⟩ sevenPerDollar
        = .ok (some .zero) := by decide +kernel
  refine ⟨by decide, inPlaces_of_scales (by decide), by decide +kernel, ?_⟩
  rintro ⟨t, ht, hsame⟩
  cases hidden.symm.trans ht
  revert hsame
  decide

end Daybook
