import Daybook.Proofs.Report.Hiding
import Daybook.Proofs.Report.Refinement

/-!
# Totals and the breakdown of a report

What an amount comes to in the reporting currency depends on its currency and on the period it falls into,
not on the groups around it. So the total of a report of sums is the sum of what its postings come to
(`Consolidation.converts_of_reports`), and it is the same for all reports that are divided by currency and by
the same periods (`grandTotal?_of_breakdown`).
-/

namespace Daybook

open Contribution Consolidation

variable {A B : Arithmetic} {query : ResolvedQuery} {spec : ReportSpec} {stream : VoucherStream}
  {plan : Plan} {levels levels' : List Level} {range? : Option DateRange}
  {order order' : GroupOrder} {itemized itemized' : Bool} {total? : Option Decimal}

namespace Consolidation

variable {p : Position} {ps : List Posting} {q : Posting} {e : Entry} {v : Voucher} {g : Group}

/-! ### Positions at the ends of paths -/

/-- The day at the end of a path depends on the date of the voucher and the periods along the path. -/
lemma Position.date?_follow (p : Position) (levels : List Level) (e : Entry) (v : Voucher) :
    (p.follow levels (levels.map (·.key e v))).date? = (levels.filterMap Level.period?).foldl
      (fun _ period => v.date?.map fun d => period.endOf (period.startOf d)) p.date? := by
  induction levels generalizing p with
  | nil => rfl
  | cons l levels ih =>
    rw [List.map_cons, follow, ih]
    cases hl : l.period? with
    | none => rw [List.filterMap_cons_none hl, date?_enter hl]
    | some period =>
      rw [List.filterMap_cons_some hl, List.foldl_cons]
      congr 1
      cases l with
      | period q =>
        cases hl
        cases hd : v.date? <;> simp [Level.key, enter, Level.period?, hd]
      | currency | account | subaccount | content | remark | owner | kind => cases hl

/-- The rate at the end of a path depends on the currency of the entry and on the periods along the path. -/
lemma rateAt?_follow (hcur : .currency ∈ levels) (hcur' : .currency ∈ levels')
    (hperiods : levels.filterMap Level.period? = levels'.filterMap Level.period?) (e : Entry)
    (v : Voucher) :
    plan.rateAt? (Position.root.follow levels (levels.map (·.key e v)))
      = plan.rateAt? (Position.root.follow levels' (levels'.map (·.key e v))) := by
  apply Plan.rateAt?_congr
  · rw [Position.currency?_follow (.inl hcur), Position.currency?_follow (.inl hcur')]
  · rw [Position.date?_follow, Position.date?_follow, hperiods]

/-! ### Totals of postings -/

/-- The rate of a posting: that of the position at the end of its path. -/
def rateOf? (plan : Plan) (p : Position) (levels : List Level) (q : Posting) :
    Option (Option Decimal) :=
  plan.rateAt? (p.follow levels q.path)

/-- What a posting comes to at its rate. -/
def worth (plan : Plan) (p : Position) (levels : List Level) (q : Posting) : ℚ :=
  q.amount.value * rateValue ((rateOf? plan p levels q).getD none)

/-- Inside of its part a posting has the rate that it has outside. -/
lemma rateOf?_of_path {l : Level} {key : GroupKey} {path : List GroupKey}
    (hpath : q.path = key :: path) : rateOf? plan p (l :: levels) q
      = rateOf? plan (p.enter (some l) key) levels { q with path := path } := by
  rw [rateOf?, rateOf?, hpath]
  rfl

lemma worth_of_path {l : Level} {key : GroupKey} {path : List GroupKey}
    (hpath : q.path = key :: path) : worth plan p (l :: levels) q
      = worth plan (p.enter (some l) key) levels { q with path := path } := by
  rw [worth, worth, rateOf?_of_path hpath]

/-- The postings end in currencies, behind as many keys as there are levels. -/
structure EndsInCurrencies (p : Position) (levels : List Level) (ps : List Posting) : Prop where
  path_length : ∀ q ∈ ps, q.path.length = levels.length
  exists_currency : ∀ q ∈ ps, ∃ cur, (p.follow levels q.path).currency? = some cur

/-- The total is there if all postings have rates, and is the sum of what they come to. -/
structure Converts (plan : Plan) (p : Position) (levels : List Level) (ps : List Posting)
    (total? : Option Decimal) : Prop where
  missing : total? = none → ∃ q ∈ ps, rateOf? plan p levels q = none
  rated : ∀ t, total? = some t → ∀ q ∈ ps, rateOf? plan p levels q ≠ none
  value_eq : ∀ t, total? = some t → t.value = (ps.map (worth plan p levels)).sum

lemma EndsInCurrencies.part {l : Level} (h : EndsInCurrencies p (l :: levels) ps) (key : GroupKey) :
    EndsInCurrencies (p.enter (some l) key) levels (Posting.under key ps) := by
  constructor
  · intro q hq
    exact Posting.path_length_of_mem_under h.path_length hq
  · intro q hq
    obtain ⟨p', hp', hpath, _⟩ := Posting.exists_of_mem_under hq
    obtain ⟨cur, hcur⟩ := h.exists_currency p' hp'
    rw [hpath] at hcur
    exact ⟨cur, hcur⟩

/-- An undivided group is converted at the rate of all of its postings. -/
lemma converts_of_undivided (reports : Group.Reports .lossless none order 0 ps g)
    (ends : EndsInCurrencies p [] ps) (hne : ps ≠ [])
    (h : convertedTotal .lossless plan p [] g = .ok total?) : Converts plan p [] ps total? := by
  have here : ∀ q ∈ ps, rateOf? plan p [] q = plan.rateAt? p := fun q _ => by
    unfold rateOf?
    cases q.path <;> rfl
  obtain ⟨q, hq⟩ := List.exists_mem_of_ne_nil _ hne
  obtain ⟨cur, hcur⟩ := ends.exists_currency q hq
  have hcur : p.currency? = some cur := by
    cases hpath : q.path <;> rw [hpath] at hcur <;> exact hcur
  rw [convertedTotal_leaf reports.undivided] at h
  constructor
  case missing =>
    -- a rate for one of the postings would have given a total
    rintro rfl
    refine ⟨q, hq, ?_⟩
    rw [here q hq]
    by_contra hrate
    obtain ⟨rate?, hrate⟩ := Option.ne_none_iff_exists'.1 hrate
    rw [convertTotal_of_rate hrate] at h
    obtain ⟨t, _, ht⟩ := map_eq_ok.1 h
    cases ht
  case rated =>
    rintro t rfl q hq
    obtain ⟨rate?, hrate, _⟩ := (convertTotal_eq_some hcur).1 h
    rw [here q hq, hrate]
    exact Option.some_ne_none _
  case value_eq =>
    -- one rate for all postings, so it comes out of their sum
    rintro t rfl
    obtain ⟨rate?, hrate, ht⟩ := (convertTotal_eq_some hcur).1 h
    have each : ps.map (worth plan p []) = ps.map fun q => q.amount.value * rateValue rate? := by
      apply List.map_congr_left
      intro q hq
      rw [worth, here q hq, hrate, Option.getD_some]
    rw [value_of_atRate ht, reports.value_total, each, List.sum_map_mul_right]

/-- The postings of a divided group are converted part by part. -/
lemma Converts.of_parts {l : Level}
    (reports : Group.Reports .lossless none order (levels.length + 1) ps g)
    (ends : EndsInCurrencies p (l :: levels) ps) (hne : ps ≠ [])
    (parts : ∀ c ∈ g.children, ∀ part?,
      convertedTotal .lossless plan (p.enter (some l) c.key) levels c = .ok part? →
        Converts plan (p.enter (some l) c.key) levels (Posting.under c.key ps) part?)
    (h : convertedTotal .lossless plan p (l :: levels) g = .ok total?) :
    Converts plan p (l :: levels) ps total? := by
  have children : g.children ≠ [] := by
    obtain ⟨q, hq⟩ := List.exists_mem_of_ne_nil _ hne
    obtain ⟨c, hc, _⟩ := reports.exists_part ends.path_length hq
    exact List.ne_nil_of_mem hc
  rw [convertedTotal_node children] at h
  constructor
  case missing =>
    -- a missing sum has a part without a total, and so a posting of that part without a rate
    rintro rfl
    obtain ⟨c, hc, hnone⟩ := exists_of_convertedSum_none h
    obtain ⟨q, hq, hrate⟩ := (parts c hc none hnone).missing rfl
    obtain ⟨q', hq', hpath, hinside⟩ := Posting.exists_of_mem_under hq
    refine ⟨q', hq', ?_⟩
    rw [rateOf?_of_path hpath, ← hinside]
    exact hrate
  case rated =>
    -- each posting lies in one of the parts, which all have totals
    rintro t rfl q hq
    obtain ⟨c, hc, path, hpath⟩ := reports.exists_part ends.path_length hq
    obtain ⟨x, hx⟩ := exists_of_convertedSum h hc
    have inside : { q with path := path } ∈ Posting.under c.key ps :=
      List.mem_filterMap.2 ⟨q, hq, Posting.enter?_eq_some.2 ⟨hpath, rfl⟩⟩
    rw [rateOf?_of_path hpath]
    exact (parts c hc _ hx).rated x rfl _ inside
  case value_eq =>
    -- the parts are arranged in some order of their keys; to a sum over the keys it does not matter
    rintro t rfl
    have divided : ∀ q ∈ ps, q.path ≠ [] :=
      fun q hq => List.ne_nil_of_length_eq_add_one (ends.path_length q hq)
    have partWorth : ∀ c ∈ g.children, ∀ x,
        convertedTotal .lossless plan (p.enter (some l) c.key) levels c = .ok (some x) →
        x.value = ((Posting.under c.key ps).map (worth plan (p.enter (some l) c.key) levels)).sum :=
      fun c hc x hx => (parts c hc _ hx).value_eq x rfl
    have byKeys : ((Posting.nextKeys ps).map fun key =>
        ((Posting.under key ps).map (worth plan (p.enter (some l) key) levels)).sum).sum
          = (ps.map (worth plan p (l :: levels))).sum :=
      Posting.sum_map_parts divided fun q _ key path hpath => (worth_of_path hpath).symm
    have perm := GroupKey.arrange_perm order (Posting.nextKeys ps)
    rw [← reports.keys_eq ends.path_length] at perm
    rw [value_of_convertedSum h partWorth, Decimal.value_zero, zero_add, ← byKeys,
      ← (perm.map _).sum_eq, List.map_map]
    rfl

/-- The converted total of a group is that of its postings, however it is divided. -/
theorem converts_of_reports (reports : Group.Reports .lossless none order levels.length ps g)
    (ends : EndsInCurrencies p levels ps) (hne : ps ≠ [])
    (h : convertedTotal .lossless plan p levels g = .ok total?) : Converts plan p levels ps total? := by
  induction levels generalizing p ps g total? with
  | nil => exact converts_of_undivided reports ends hne h
  | cons l levels ih =>
    refine .of_parts reports ends hne (fun c hc part? hpart => ?_) h
    refine ih (reports.part_of_succ hc) (ends.part c.key) ?_ hpart
    rw [Ne, Posting.under_eq_nil_iff, not_not, ← reports.mem_keys ends.path_length]
    exact List.mem_map_of_mem hc

/-- An empty report comes to zero. -/
lemma converts_of_nil {n : ℕ} (reports : Group.Reports .lossless none order n [] g)
    (h : convertedTotal .lossless plan .root levels g = .ok total?) :
    Converts plan .root levels [] total? := by
  have undivided : g.children = [] := by
    have keys := reports.keys_eq (by simp)
    rw [Posting.nextKeys_eq_nil (by simp)] at keys
    exact List.map_eq_nil_iff.1 (List.perm_nil.1 (keys ▸ GroupKey.arrange_perm order []))
  have total : g.total = Decimal.zero := (Except.ok.inj reports.sum_eq.1).symm
  rw [convertedTotal_leaf undivided, total] at h
  cases h
  exact ⟨nofun, fun _ _ q hq => absurd hq List.not_mem_nil, by rintro t ⟨⟩; exact Decimal.value_zero⟩

/-! ### Consolidations with a finer arithmetic -/

lemma convertTotal_confirmed (h : A.Refines B) (plan : Plan) (p : Position) (a : Decimal) :
    ConfirmedBy (convertTotal A plan p a) (convertTotal B plan p a) := by
  unfold convertTotal
  cases p.currency? with
  | none => exact .refl _
  | some cur =>
    dsimp only
    split
    · exact .refl _
    · cases plan.rates (p.date?.getD plan.asOf) cur plan.currency with
      | ok rate => exact (h.mul a rate).bind fun _ => .refl _
      | error e => cases e <;> exact .refl _

lemma addTotals_confirmed (h : A.Refines B) (a? b? : Option Decimal) :
    ConfirmedBy (addTotals A a? b?) (addTotals B a? b?) := by
  cases a? with
  | none => exact .refl _
  | some a =>
    cases b? with
    | none => exact .refl _
    | some b => exact (h.add a b).bind fun _ => .refl _

mutual

theorem convert_confirmed (h : A.Refines B) (plan : Plan) (p : Position) (levels : List Level) :
    ∀ g : Group, ConfirmedBy (convert A plan p levels g) (convert B plan p levels g)
  | .mk key total converted? children entries series? => by
    rw [convert, convert]
    split
    · exact (convertTotal_confirmed h plan p total).bind fun _ => .refl _
    · exact (convertAll_confirmed h plan p levels _ children).bind fun _ => .refl _

theorem convertAll_confirmed (h : A.Refines B) (plan : Plan) (p : Position) (levels : List Level)
    (sum? : Option Decimal) : ∀ gs : List Group,
      ConfirmedBy (convertAll A plan p levels sum? gs) (convertAll B plan p levels sum? gs)
  | [] => .refl _
  | g :: gs => by
    rw [convertAll, convertAll]
    refine (convert_confirmed h plan _ levels.tail g).bind fun converted => ?_
    refine (addTotals_confirmed h sum? converted.1.converted?).bind fun sum? => ?_
    exact (convertAll_confirmed h plan p levels sum? gs).bind fun _ => .refl _

end

end Consolidation

lemma consolidate_confirmed (h : A.Refines B) (s : Subtotal) (plan : Plan) :
    ConfirmedBy (consolidate A s plan) (consolidate B s plan) := by
  unfold consolidate
  split
  · exact .refl _
  · split
    · exact .refl _
    · exact (convert_confirmed h plan .root s.levels s.root).lift.bind fun _ => .refl _

lemma grandTotal?_confirmed (h : A.Refines B) (stream : VoucherStream) (query : ResolvedQuery)
    (spec : ReportSpec) (plan : Plan) :
    ConfirmedBy (grandTotal? A stream query spec plan) (grandTotal? B stream query spec plan) :=
  (subtotal_confirmed h stream query spec).bind fun s =>
    (consolidate_confirmed h s plan).bind fun _ => .refl _

/-! ### Grand totals -/

/-- The grand total of a report on vouchers is there, or known to be missing, if nothing overflows. -/
lemma exists_grandTotal? (hdays : spec.span? = .ok none) (hcur : .currency ∈ spec.levels)
    (hcount : spec.aggregation ≠ .count) {vs : List Voucher}
    (h : ∀ o, grandTotal? A (vs.map .ok) query spec plan ≠ .error (.overflow o)) :
    ∃ total?, grandTotal? A (vs.map .ok) query spec plan = .ok total? := by
  have fits : ∀ o, subtotal A (vs.map .ok) query spec ≠ .error (.overflow o) :=
    fun o ho => h o (by rw [grandTotal?, ho]; rfl)
  obtain ⟨s, hs⟩ := exists_subtotal_of_no_overflow hdays fits
  obtain ⟨_, _, _, _, _, _, hform⟩ := reports_of_subtotal hdays hs
  have hcur : .currency ∈ s.levels := by rwa [hform]
  have hcount : s.aggregation ≠ .count := by rwa [hform]
  have total : grandTotal? A (vs.map .ok) query spec plan
      = liftOverflow (convertedTotal A plan .root s.levels s.root) := by
    rw [← grandTotal?_consolidate hcur hcount, grandTotal?, hs]
    rfl
  rw [total] at h ⊢
  cases hconverted : convertedTotal A plan .root s.levels s.root with
  | error o => exact absurd (by rw [hconverted]; rfl) (h o)
  | ok total? => exact ⟨total?, rfl⟩

/-! ### Two breakdowns -/

/-- The postings that are broken down by some levels have the same amounts and rates by others. -/
def SameWorth (plan : Plan) (levels levels' : List Level) : List Posting → List Posting → Prop :=
  List.Forall₂ fun q q' => q.amount = q'.amount ∧
    rateOf? plan .root levels q = rateOf? plan .root levels' q'

/-- Levels of currencies and the same periods are all that matters to what contributions come to. -/
lemma sameWorth_of_posted {cs : List Contribution} {ps ps' : List Posting}
    (hcur : .currency ∈ levels) (hcur' : .currency ∈ levels')
    (hperiods : levels.filterMap Level.period? = levels'.filterMap Level.period?)
    (h : Posted A ⟨levels, .sum, range?, order, itemized⟩ cs ps)
    (h' : Posted A ⟨levels', .sum, range?, order', itemized'⟩ cs ps') :
    SameWorth plan levels levels' ps ps' := by
  induction h generalizing ps' with
  | nil =>
    cases h'
    exact .nil
  | cons hp _ ih =>
    -- the amount of a posting does not depend on the levels, its rate only on the periods
    obtain _ | ⟨hp', h'⟩ := h'
    obtain ⟨amount_eq, hp⟩ := posting_eq_ok.1 hp
    obtain ⟨amount_eq', hp'⟩ := posting_eq_ok.1 hp'
    refine .cons ⟨Except.ok.inj (amount_eq.symm.trans amount_eq'), ?_⟩ (ih h')
    rw [rateOf?, rateOf?, hp, hp']
    exact rateAt?_follow hcur hcur' hperiods _ _

lemma endsInCurrencies_of_postings {vs : List Voucher} {ps : List Posting}
    (hcur : .currency ∈ spec.levels) (h : postings A query spec vs = .ok ps) :
    EndsInCurrencies .root spec.levels ps := by
  constructor
  · exact path_length_of_postings h
  · intro q hq
    obtain ⟨e, v, hpath⟩ := exists_keys_of_postings h q hq
    exact ⟨e.currency, by rw [hpath, Position.currency?_follow (.inl hcur)]⟩

/-- A total without loss is that of the postings. -/
lemma converts_of_grandTotal? {vs : List Voucher} (hcur : .currency ∈ levels)
    (h : grandTotal? .lossless (vs.map .ok) query ⟨levels, .sum, range?, order, itemized⟩ plan
      = .ok total?) :
    ∃ ps, postings .lossless query ⟨levels, .sum, range?, order, itemized⟩ vs = .ok ps ∧
      Converts plan .root levels ps total? := by
  obtain ⟨root, hroot, htotal⟩ := (grandTotal?_eq_ok rfl hcur (by simp)).1 h
  obtain ⟨ps, g, hps, _, reports, _, hs⟩ := reports_of_subtotal rfl hroot
  cases hs
  rw [VoucherStream.delivered_ok] at hps
  refine ⟨ps, hps, ?_⟩
  by_cases hne : ps = []
  · rw [hne] at reports ⊢
    exact converts_of_nil reports htotal
  · exact converts_of_reports reports (endsInCurrencies_of_postings hcur hps) hne htotal

/-- Postings of the same worth have equal totals, or none. -/
lemma SameWorth.total_eq {ps ps' : List Posting} {total?' : Option Decimal}
    (same : SameWorth plan levels levels' ps ps') (h : Converts plan .root levels ps total?)
    (h' : Converts plan .root levels' ps' total?') :
    total?.map Decimal.value = total?'.map Decimal.value := by
  have worth_eq : ps.map (worth plan .root levels) = ps'.map (worth plan .root levels') := by
    rw [← List.forall₂_eq_eq_eq, List.forall₂_map_left_iff, List.forall₂_map_right_iff]
    exact same.imp fun q q' ⟨amount_eq, rate_eq⟩ => by rw [worth, worth, amount_eq, rate_eq]
  cases total? with
  | none =>
    -- the posting without a rate has none in the other breakdown either
    obtain ⟨q, hq, hrate⟩ := h.missing rfl
    obtain ⟨q', hq', _, rate_eq⟩ := exists_of_mem_forall₂ same.flip hq
    cases total?' with
    | none => rfl
    | some t' => exact absurd (rate_eq ▸ hrate) (h'.rated t' rfl q' hq')
  | some t =>
    cases total?' with
    | none =>
      obtain ⟨q', hq', hrate⟩ := h'.missing rfl
      obtain ⟨q, hq, _, rate_eq⟩ := exists_of_mem_forall₂ same hq'
      exact absurd (rate_eq.trans hrate) (h.rated t rfl q hq)
    | some t' =>
      rw [Option.map_some, Option.map_some, h.value_eq t rfl, h'.value_eq t' rfl, worth_eq]

/-- Two breakdowns of a report of sums that both have a level of currencies, and the same levels of dates in
the same order, have equal totals in the reporting currency, or none, if nothing is rounded and nothing
overflows. -/
theorem grandTotal?_of_breakdown (levels levels' : List Level) (vs : List Voucher)
    (query : ResolvedQuery) (range? : Option DateRange) (order order' : GroupOrder)
    (itemized itemized' : Bool) (plan : Plan) (hcur : .currency ∈ levels)
    (hcur' : .currency ∈ levels')
    (hperiods : levels.filterMap Level.period? = levels'.filterMap Level.period?)
    (h : ∀ o, grandTotal? .lossless (vs.map .ok) query ⟨levels, .sum, range?, order, itemized⟩ plan
      ≠ .error (.overflow o))
    (h' : ∀ o, grandTotal? .lossless (vs.map .ok) query
      ⟨levels', .sum, range?, order', itemized'⟩ plan ≠ .error (.overflow o)) :
    ∃ total? total?', grandTotal? .rounding (vs.map .ok) query
        ⟨levels, .sum, range?, order, itemized⟩ plan = .ok total? ∧
      grandTotal? .rounding (vs.map .ok) query
        ⟨levels', .sum, range?, order', itemized'⟩ plan = .ok total?' ∧
      total?.map Decimal.value = total?'.map Decimal.value := by
  obtain ⟨total?, ht⟩ := exists_grandTotal? rfl hcur (by simp) h
  obtain ⟨total?', ht'⟩ := exists_grandTotal? rfl hcur' (by simp) h'
  have rounds := grandTotal?_confirmed Arithmetic.lossless_refines_rounding (vs.map .ok) query
  refine ⟨total?, total?', rounds _ plan ht, rounds _ plan ht', ?_⟩
  obtain ⟨ps, hps, converts⟩ := converts_of_grandTotal? hcur ht
  obtain ⟨ps', hps', converts'⟩ := converts_of_grandTotal? hcur' ht'
  have same : SameWorth plan levels levels' ps ps' :=
    sameWorth_of_posted hcur hcur' hperiods (mapM_eq_ok.1 hps) (mapM_eq_ok.1 hps')
  exact same.total_eq converts converts'

/-- A dollar at seven in January, and at eight after that. -/
def risingDollar : Plan where
  currency := "CNY"
  rates := fun d _ _ => .ok ⟨if d < .february1 then 7 else 8, 0, false, by split <;> decide,
    Decimal.zero.scale_le, nofun⟩
  asOf := .january30

/-- A hundred dollars are sold in January and two are bought in February. -/
def dollarTrades : List Voucher := [.exchange, .single .february1 "USD" .two]

/-- By month and currency they come to what they come to by currency, account and month: each of them is
converted at the rate of its month. -/
theorem dollars_by_month_and_account :
    (∀ o, grandTotal? .lossless (dollarTrades.map .ok) (.ofTree .all)
      ⟨[.period .month, .currency], .sum, none, .firstSeen, false⟩ risingDollar
        ≠ .error (.overflow o)) ∧
    (∀ o, grandTotal? .lossless (dollarTrades.map .ok) (.ofTree .all)
      ⟨[.currency, .account, .period .month], .sum, none, .firstSeen, true⟩ risingDollar
        ≠ .error (.overflow o)) ∧
    ∃ total? total?', grandTotal? .rounding (dollarTrades.map .ok) (.ofTree .all)
        ⟨[.period .month, .currency], .sum, none, .firstSeen, false⟩ risingDollar = .ok total? ∧
      grandTotal? .rounding (dollarTrades.map .ok) (.ofTree .all)
        ⟨[.currency, .account, .period .month], .sum, none, .firstSeen, true⟩ risingDollar
          = .ok total?' ∧
      total?.map Decimal.value = total?'.map Decimal.value := by
  have byMonth : grandTotal? .lossless (dollarTrades.map .ok) (.ofTree .all)
      ⟨[.period .month, .currency], .sum, none, .firstSeen, false⟩ risingDollar
        = .ok (some ⟨-584, 0, false, by decide, by decide, nofun⟩) := by decide +kernel
  have byAccount : grandTotal? .lossless (dollarTrades.map .ok) (.ofTree .all)
      ⟨[.currency, .account, .period .month], .sum, none, .firstSeen, true⟩ risingDollar
        = .ok (some ⟨-584, 0, false, by decide, by decide, nofun⟩) := by decide +kernel
  have fits := fun o => ne_error_of_eq_ok byMonth (.overflow o)
  have fits' := fun o => ne_error_of_eq_ok byAccount (.overflow o)
  exact ⟨fits, fits', grandTotal?_of_breakdown [.period .month, .currency]
    [.currency, .account, .period .month] dollarTrades (.ofTree .all) none .firstSeen .firstSeen
    false true risingDollar (by decide) (by decide) rfl fits fits'⟩

end Daybook
