import Daybook.Proofs.Report.Group
import Daybook.Report.Consolidation

/-!
# Converted totals

`Consolidation.convertedTotal` is what a group comes to in the reporting currency. An undivided group is
converted at the rate of its position (`Consolidation.convertedTotal_leaf`), a divided one adds up its
parts (`Consolidation.convertedTotal_node`, `Consolidation.convertedSum_cons_eq_some`). In a report without
levels of dates, everything in one currency has one rate, so its converted total is a multiple of its
total (`Consolidation.InOneCurrency.value_convertedTotal`).
-/

namespace Daybook

namespace Consolidation

variable {A : Arithmetic} {plan : Plan} {p : Position} {levels : List Level} {a b t : Decimal}
  {g g' : Group} {gs : List Group} {cur : String} {ps : List Posting} {key : GroupKey}
  {order : GroupOrder}

/-! ### Totals without the groups around them -/

/-- What a group comes to in the reporting currency. -/
def convertedTotal (A : Arithmetic) (plan : Plan) (p : Position) (levels : List Level) (g : Group) :
    Except Overflow (Option Decimal) :=
  (·.1.converted?) <$> convert A plan p levels g

/-- What the parts of a group come to, on top of a sum. -/
def convertedSum (A : Arithmetic) (plan : Plan) (p : Position) (levels : List Level)
    (sum? : Option Decimal) (gs : List Group) : Except Overflow (Option Decimal) :=
  (·.sum?) <$> convertAll A plan p levels sum? gs

lemma convertedTotal_leaf (h : g.children = []) :
    convertedTotal A plan p levels g = (·.1) <$> convertTotal A plan p g.total := by
  obtain ⟨key, total, converted?, children, entries, series?⟩ := g
  obtain rfl : children = [] := h
  rw [convertedTotal, convert, if_pos List.isEmpty_nil, Group.total]
  cases convertTotal A plan p total <;> rfl

lemma convertedTotal_node (h : g.children ≠ []) : convertedTotal A plan p levels g
    = convertedSum A plan p levels (some Decimal.zero) g.children := by
  obtain ⟨key, total, converted?, children, entries, series?⟩ := g
  have hne : ¬ children.isEmpty = true := by simpa [Group.children] using h
  rw [convertedTotal, convert, if_neg hne, convertedSum, Group.children]
  cases convertAll A plan p levels (some Decimal.zero) children <;> rfl

@[simp] lemma convertedSum_nil (sum? : Option Decimal) :
    convertedSum A plan p levels sum? [] = .ok sum? := by
  rw [convertedSum, convertAll]
  rfl

lemma convertedSum_cons (sum? : Option Decimal) (g : Group) (gs : List Group) :
    convertedSum A plan p levels sum? (g :: gs)
      = convertedTotal A plan (p.enter levels.head? g.key) levels.tail g >>= fun total? =>
          addTotals A sum? total? >>= fun sum? => convertedSum A plan p levels sum? gs := by
  unfold convertedSum convertedTotal
  rw [convertAll]
  cases convert A plan (p.enter levels.head? g.key) levels.tail g with
  | error o => rfl
  | ok r =>
    obtain ⟨g', missing⟩ := r
    simp only [ok_bind, map_ok]
    cases addTotals A sum? g'.converted? with
    | error o => rfl
    | ok sum? =>
      simp only [ok_bind]
      cases convertAll A plan p levels sum? gs <;> rfl

/-- Once a part has no converted total, there is no sum. -/
lemma convertedSum_none (h : convertedSum A plan p levels none gs = .ok (some t)) : False := by
  induction gs with
  | nil => simp at h
  | cons g gs ih =>
    rw [convertedSum_cons, bind_eq_ok] at h
    obtain ⟨total?, _, h⟩ := h
    rw [addTotals] at h
    · exact ih h
    · simp

/-- A sum is there if all parts have converted totals, which are added up one by one. -/
lemma convertedSum_cons_eq_some :
    convertedSum A plan p levels (some a) (g :: gs) = .ok (some t) ↔
      ∃ x b, convertedTotal A plan (p.enter levels.head? g.key) levels.tail g = .ok (some x) ∧
        A.add a x = .ok b ∧ convertedSum A plan p levels (some b) gs = .ok (some t) := by
  simp only [convertedSum_cons, bind_eq_ok]
  constructor
  · -- a part without a total would leave no sum at the end
    rintro ⟨total?, htotal, sum?, hsum, h⟩
    cases total? with
    | none =>
      cases hsum
      exact (convertedSum_none h).elim
    | some x =>
      simp only [addTotals, bind_eq_ok, pure_eq_ok, Except.ok.injEq] at hsum
      obtain ⟨b, hb, rfl⟩ := hsum
      exact ⟨x, b, htotal, hb, h⟩
  · rintro ⟨x, b, hx, hb, h⟩
    exact ⟨some x, hx, some b, by rw [addTotals, hb]; rfl, h⟩

/-! ### Rates -/

/-- The rate at a position, if there is one. In the reporting currency nothing is multiplied. -/
def Plan.rateAt? (plan : Plan) (p : Position) : Option (Option Decimal) :=
  match p.currency? with
  | none     => none
  | some cur =>
    if cur = plan.currency then some none
    else match plan.rates (p.date?.getD plan.asOf) cur plan.currency with
      | .ok rate => some (some rate)
      | .error _ => none

/-- A total at a rate. -/
def atRate (A : Arithmetic) (rate? : Option Decimal) (total : Decimal) : Except Overflow Decimal :=
  match rate? with
  | none      => .ok total
  | some rate => A.mul total rate

/-- The value of a rate. -/
def rateValue (rate? : Option Decimal) : ℚ := (rate?.map Decimal.value).getD 1

/-- Where there is a rate, a total in a currency is converted at it. -/
lemma convertTotal_of_rate {rate? : Option Decimal} (hrate : plan.rateAt? p = some rate?) :
    (·.1) <$> convertTotal A plan p a = some <$> atRate A rate? a := by
  cases hcur : p.currency? with
  | none => simp [Plan.rateAt?, hcur] at hrate
  | some cur =>
    simp only [convertTotal, Plan.rateAt?, hcur] at hrate ⊢
    by_cases hown : cur = plan.currency
    · rw [if_pos hown, Option.some.injEq] at hrate
      rw [if_pos hown, ← hrate]
      rfl
    · simp only [if_neg hown] at hrate ⊢
      cases hrates : plan.rates (p.date?.getD plan.asOf) cur plan.currency with
      | error e => simp [hrates] at hrate
      | ok rate =>
        simp only [hrates, Option.some.injEq] at hrate
        subst hrate
        cases h : A.mul a rate <;> simp [h, atRate]

/-- In a currency, a total is converted if there is a rate. -/
lemma convertTotal_eq_some (hcur : p.currency? = some cur) :
    (·.1) <$> convertTotal A plan p a = .ok (some t) ↔
      ∃ rate?, plan.rateAt? p = some rate? ∧ atRate A rate? a = .ok t := by
  cases hrate : plan.rateAt? p with
  | some rate? => simp [convertTotal_of_rate hrate, map_eq_ok]
  | none =>
    simp only [Plan.rateAt?, convertTotal, hcur] at hrate ⊢
    by_cases hown : cur = plan.currency
    · simp [hown] at hrate
    · simp only [if_neg hown] at hrate ⊢
      cases hrates : plan.rates (p.date?.getD plan.asOf) cur plan.currency with
      | ok rate => simp [hrates] at hrate
      | error e => cases e <;> simp

lemma value_of_atRate {rate? : Option Decimal} (h : atRate .lossless rate? a = .ok t) :
    t.value = a.value * rateValue rate? := by
  cases rate? with
  | none =>
    cases h
    simp [rateValue]
  | some rate => exact (Arithmetic.lossless_mul.1 h).2

lemma atRate_confirmed {B : Arithmetic} (hAB : A.Refines B) (rate? : Option Decimal) (a : Decimal) :
    ConfirmedBy (atRate A rate? a) (atRate B rate? a) := by
  cases rate? with
  | none => exact .refl _
  | some rate => exact hAB.mul a rate

/-- Rates do not change what is zero. -/
lemma atRate_of_isZero (rate? : Option Decimal) (ha : a.isZero = true) :
    ∃ t, atRate .rounding rate? a = .ok t ∧ t.isZero = true := by
  cases rate? with
  | none => exact ⟨a, rfl, ha⟩
  | some rate => exact ⟨Decimal.zero, by simp [atRate, Arithmetic.rounding, Decimal.mul, ha], rfl⟩

/-- Only the currency and the date of a position decide on its rate. -/
lemma Plan.rateAt?_congr {q : Position} (hcur : p.currency? = q.currency?)
    (hdate : p.date? = q.date?) : plan.rateAt? p = plan.rateAt? q := by
  rw [Plan.rateAt?, hcur, hdate, Plan.rateAt?]

/-! ### Positions of parts -/

/-- Only a level of currencies sets the currency. -/
lemma Position.currency?_enter_of_ne {l : Level} (hl : l ≠ .currency) (e : Entry) (v : Voucher) :
    (p.enter (some l) (l.key e v)).currency? = p.currency? := by
  cases l with
  | currency => exact absurd rfl hl
  | account | subaccount | content | remark | owner | kind | period => rfl

/-- The position of a part stays in the currency. -/
lemma Position.currency?_enter {e : Entry} (hcur : p.currency? = some e.currency) (l : Level)
    (v : Voucher) : (p.enter (some l) (l.key e v)).currency? = some e.currency := by
  by_cases hl : l = .currency
  · rw [hl]
    rfl
  · rw [currency?_enter_of_ne hl, hcur]

/-- Only levels of dates set the date. -/
lemma Position.date?_enter {l : Level} (hl : l.period? = none) (e : Entry) (v : Voucher) :
    (p.enter (some l) (l.key e v)).date? = p.date? := by
  cases l with
  | period q => cases hl
  | currency | account | subaccount | content | remark | owner | kind => rfl

/-! ### Keys of levels -/

/-- The postings are of one currency, and their keys are those of levels. -/
def Keyed (levels : List Level) (cur : String) (ps : List Posting) : Prop :=
  ∀ q ∈ ps, ∃ e v, Entry.currency e = cur ∧ q.path = levels.map (·.key e v)

/-- So are the postings of a part, for the levels behind. -/
lemma Keyed.under {l : Level} (h : Keyed (l :: levels) cur ps) (key : GroupKey) :
    Keyed levels cur (Posting.under key ps) := by
  intro q hq
  obtain ⟨p, hp, hpath', _⟩ := Posting.exists_of_mem_under hq
  obtain ⟨e, v, he, hpath⟩ := h p hp
  rw [hpath'] at hpath
  exact ⟨e, v, he, (List.cons.inj hpath).2⟩

lemma Keyed.path_length (h : Keyed levels cur ps) : ∀ q ∈ ps, q.path.length = levels.length := by
  intro q hq
  obtain ⟨e, v, _, hpath⟩ := h q hq
  rw [hpath, List.length_map]

/-- The key of a part is that of an entry in the currency. -/
lemma Keyed.exists_key {l : Level} (h : Keyed (l :: levels) cur ps)
    (hkey : key ∈ Posting.nextKeys ps) : ∃ e v, Entry.currency e = cur ∧ key = l.key e v := by
  obtain ⟨p, hp, hhead⟩ := Posting.mem_nextKeys.1 hkey
  obtain ⟨e, v, he, hpath⟩ := h p hp
  rw [hpath, List.map_cons, List.head?_cons, Option.some.injEq] at hhead
  exact ⟨e, v, he, hhead.symm⟩

/-! ### Groups in one currency -/

/-- A group reports postings of one currency, at a position in this currency, and no level of dates
divides it. -/
structure InOneCurrency (order : GroupOrder) (levels : List Level) (cur : String) (p : Position)
    (ps : List Posting) (g : Group) : Prop where
  reports : Group.Reports .lossless none order levels.length ps g
  keyed : Keyed levels cur ps
  dateless : ∀ l ∈ levels, l.period? = none
  currency_eq : p.currency? = some cur

/-- So does a part of it, and the date stays. -/
lemma InOneCurrency.part {l : Level} (h : InOneCurrency order (l :: levels) cur p ps g)
    (hg' : g' ∈ g.children) :
    InOneCurrency order levels cur (p.enter (some l) g'.key) (Posting.under g'.key ps) g' ∧
      (p.enter (some l) g'.key).date? = p.date? := by
  obtain ⟨hl, dateless⟩ := List.forall_mem_cons.1 h.dateless
  obtain ⟨e, v, rfl, hkey⟩ := h.keyed.exists_key
    ((h.reports.mem_keys h.keyed.path_length).1 (List.mem_map_of_mem hg'))
  refine ⟨⟨h.reports.part_of_succ hg', h.keyed.under g'.key, dateless, ?_⟩, ?_⟩
  · rw [hkey]
    exact Position.currency?_enter h.currency_eq l v
  · rw [hkey]
    exact Position.date?_enter hl e v

/-- An undivided group in a currency is converted if there is a rate. -/
lemma convertedTotal_leaf_eq_some (undivided : g.children = []) (hcur : p.currency? = some cur) :
    convertedTotal A plan p levels g = .ok (some t) ↔
      ∃ rate?, plan.rateAt? p = some rate? ∧ atRate A rate? g.total = .ok t := by
  rw [convertedTotal_leaf undivided, convertTotal_eq_some hcur]

/-- If there is a sum, every part has a converted total. -/
lemma exists_of_convertedSum (h : convertedSum A plan p levels (some a) gs = .ok (some t))
    (hg : g ∈ gs) :
    ∃ x, convertedTotal A plan (p.enter levels.head? g.key) levels.tail g = .ok (some x) := by
  induction gs generalizing a with
  | nil => cases hg
  | cons g' gs ih =>
    obtain ⟨x, b, hx, _, h⟩ := convertedSum_cons_eq_some.1 h
    rcases List.mem_cons.1 hg with rfl | hg
    · exact ⟨x, hx⟩
    · exact ih h hg

/-- If there is no sum, some part has no converted total. -/
lemma exists_of_convertedSum_none (h : convertedSum A plan p levels (some a) gs = .ok none) :
    ∃ g ∈ gs, convertedTotal A plan (p.enter levels.head? g.key) levels.tail g = .ok none := by
  induction gs generalizing a with
  | nil => simp at h
  | cons g gs ih =>
    simp only [convertedSum_cons, bind_eq_ok] at h
    obtain ⟨total?, htotal, sum?, hsum, h⟩ := h
    cases total? with
    | none => exact ⟨g, List.mem_cons_self, htotal⟩
    | some x =>
      simp only [addTotals, bind_eq_ok, pure_eq_ok, Except.ok.injEq] at hsum
      obtain ⟨b, _, rfl⟩ := hsum
      obtain ⟨g', hg', hnone⟩ := ih h
      exact ⟨g', List.mem_cons_of_mem _ hg', hnone⟩

/-- A sum is that of what its parts come to. -/
lemma value_of_convertedSum {f : Group → ℚ}
    (h : convertedSum .lossless plan p levels (some a) gs = .ok (some t))
    (parts : ∀ g ∈ gs, ∀ x,
      convertedTotal .lossless plan (p.enter levels.head? g.key) levels.tail g = .ok (some x) →
        x.value = f g) :
    t.value = a.value + (gs.map f).sum := by
  induction gs generalizing a with
  | nil =>
    rw [convertedSum_nil, Except.ok.injEq, Option.some.injEq] at h
    simp [h]
  | cons g gs ih =>
    obtain ⟨hg, parts⟩ := List.forall_mem_cons.1 parts
    obtain ⟨x, b, hx, hb, h⟩ := convertedSum_cons_eq_some.1 h
    rw [ih h parts, (Arithmetic.lossless_add.1 hb).2, hg x hx, List.map_cons, List.sum_cons, add_assoc]

/-- What is in one currency has one rate: the converted total of a group is its total at this rate. -/
theorem InOneCurrency.value_convertedTotal (h : InOneCurrency order levels cur p ps g)
    (ht : convertedTotal .lossless plan p levels g = .ok (some t)) :
    ∃ rate?, plan.rateAt? p = some rate? ∧ t.value = g.total.value * rateValue rate? := by
  induction levels generalizing ps g p t with
  | nil =>
    obtain ⟨rate?, hrate, ht⟩ := (convertedTotal_leaf_eq_some h.reports.undivided h.currency_eq).1 ht
    exact ⟨rate?, hrate, value_of_atRate ht⟩
  | cons l levels ih =>
    by_cases undivided : g.children = []
    · obtain ⟨rate?, hrate, ht⟩ := (convertedTotal_leaf_eq_some undivided h.currency_eq).1 ht
      exact ⟨rate?, hrate, value_of_atRate ht⟩
    · rw [convertedTotal_node undivided] at ht
      -- the parts are in the same currency and no level sets a date, so they have the rate of the whole
      have parts : ∀ g' ∈ g.children, ∀ x,
          convertedTotal .lossless plan (p.enter (some l) g'.key) levels g' = .ok (some x) →
          ∃ rate?, plan.rateAt? p = some rate? ∧ x.value = g'.total.value * rateValue rate? := by
        intro g' hg' x hx
        obtain ⟨hpart, hdate⟩ := h.part hg'
        rw [Plan.rateAt?_congr (h.currency_eq.trans hpart.currency_eq.symm) hdate.symm]
        exact ih hpart hx
      obtain ⟨g', hg'⟩ := List.exists_mem_of_ne_nil _ undivided
      obtain ⟨x, hx⟩ := exists_of_convertedSum ht hg'
      obtain ⟨rate?, hrate, _⟩ := parts g' hg' x hx
      have common : ∀ g' ∈ g.children, ∀ x,
          convertedTotal .lossless plan (p.enter (some l) g'.key) levels g' = .ok (some x) →
          x.value = g'.total.value * rateValue rate? := by
        intro g' hg' x hx
        obtain ⟨rate?', hrate', hvalue⟩ := parts g' hg' x hx
        cases hrate.symm.trans hrate'
        exact hvalue
      refine ⟨rate?, hrate, ?_⟩
      rw [h.reports.value_total_parts h.keyed.path_length, value_of_convertedSum ht common,
        Decimal.value_zero, zero_add, List.sum_map_mul_right]

end Consolidation

end Daybook
