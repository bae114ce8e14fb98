import Daybook.Proofs.Decimal.Value
import Daybook.Proofs.Outcome
import Daybook.Proofs.Query.Hint
import Daybook.Query.Expr

/-!
# Meaning of query expressions

What a query says about an entry of a voucher is read off the expression here, with no filter tree
(`QueryExpr.Holds`). A query is `WellFormed` if each combinator has a number of operands that it takes
and each pattern can be read. `QueryExpr.compile_iff` ties compilation to both: the well-formed queries
are compiled, and to trees with their meaning.
-/

namespace Daybook

/-! ### Texts -/

namespace TextExpr

/-- The pattern of the text, if it is one, can be read. -/
def Readable : TextExpr → Prop
  | absent       => True
  | exact _      => True
  | like source  => (Wildcard.compile? source).isSome = true
  | regex source => (RegexPattern.compile? source).isSome = true

/-- A text, or its absence, is as it is written in the query. -/
def Fits : TextExpr → Option String → Prop
  | absent,       text? => text? = none ∨ text? = some ""
  | exact s,      text? => text? = some s
  | like source,  text? =>
    ∃ pattern text, Wildcard.compile? source = some pattern ∧ text? = some text ∧
      pattern.isMatch text = true
  | regex source, text? =>
    ∃ pattern text, RegexPattern.compile? source = some pattern ∧ text? = some text ∧
      pattern.isMatch text = true

lemma exists_compile_iff {x? : Option TextExpr} :
    (∃ f, compile x? = .ok f) ↔ ∀ x, x? = some x → x.Readable := by
  match x? with
  | none            => simp [compile]
  | some .absent    => simp [compile, Readable]
  | some (.exact _) => simp [compile, Readable]
  | some (.like s)  => cases h : Wildcard.compile? s <;> simp [compile, Readable, h]
  | some (.regex s) => cases h : RegexPattern.compile? s <;> simp [compile, Readable, h]

/-- The compiled filter accepts what fits, and everything if nothing is written. -/
lemma accepts_iff {x? : Option TextExpr} {f : TextFilter} (h : compile x? = .ok f)
    (text? : Option String) :
    f.accepts text? = true ↔ ∀ x, x? = some x → x.Fits text? := by
  match x? with
  | none =>
    cases h
    simp [TextFilter.accepts]
  | some .absent =>
    cases h
    cases text? <;> simp [TextFilter.accepts, Fits]
  | some (.exact s) =>
    cases h
    simp [TextFilter.accepts, Fits]
  | some (.like s) =>
    cases hs : Wildcard.compile? s with
    | none => simp [compile, hs] at h
    | some pattern =>
      obtain rfl : TextFilter.wildcard pattern = f := by simpa [compile, hs] using h
      cases text? <;> simp [TextFilter.accepts, Fits, hs]
  | some (.regex s) =>
    cases hs : RegexPattern.compile? s with
    | none => simp [compile, hs] at h
    | some pattern =>
      obtain rfl : TextFilter.regex pattern = f := by simpa [compile, hs] using h
      cases text? <;> simp [TextFilter.accepts, Fits, hs]

end TextExpr

/-! ### Signs, subaccounts and dates -/

/-- An amount, if it is known, has the sign. -/
def SignFilter.Fits : SignFilter → Option Decimal → Prop
  | either,   _  => True
  | positive, a? => ∃ a, a? = some a ∧ 0 < a.value
  | negative, a? => ∃ a, a? = some a ∧ a.value < 0

lemma Decimal.isPositive_iff {a : Decimal} : a.isPositive = true ↔ 0 < a.value := by
  have hpow : (0 : ℚ) < 10 ^ a.scale := by positivity
  rw [isPositive, decide_eq_true_iff, value, lt_div_iff₀ hpow, zero_mul, Int.cast_pos]

lemma Decimal.isNegative_iff {a : Decimal} : a.isNegative = true ↔ a.value < 0 := by
  have hpow : (0 : ℚ) < 10 ^ a.scale := by positivity
  rw [isNegative, decide_eq_true_iff, value, div_lt_iff₀ hpow, zero_mul, Int.cast_lt_zero]

lemma SignFilter.accepts_iff {s : SignFilter} {a? : Option Decimal} :
    s.accepts a? = true ↔ s.Fits a? := by
  cases s <;> cases a? <;>
    simp [accepts, Fits, Decimal.isPositive_iff, Decimal.isNegative_iff]

/-- A subaccount, or its absence, is as it is written. -/
def SubaccountFilter.Fits : SubaccountFilter → Option UInt8 → Prop
  | any,     _           => True
  | absent,  subaccount? => subaccount? = none
  | is code, subaccount? => subaccount? = some code

lemma SubaccountFilter.accepts_iff {s : SubaccountFilter} {subaccount? : Option UInt8} :
    s.accepts subaccount? = true ↔ s.Fits subaccount? := by
  cases s <;> simp [accepts, Fits]

/-- The date of a voucher, or its absence, belongs to the range. -/
def DateRange.Covers (r : DateRange) : Option Date → Prop
  | none   => r.undated = true ∨ r.undatedOnly = true
  | some d => r.undatedOnly = false ∧ (∀ first, r.first? = some first → first ≤ d) ∧
      ∀ last, r.last? = some last → d ≤ last

lemma DateRange.contains_iff_covers {r : DateRange} {date? : Option Date} :
    r.contains date? = true ↔ r.Covers date? := by
  cases date? with
  | none => simp [contains, Covers]
  | some d =>
    cases hfirst : r.first? <;> cases hlast : r.last? <;>
      simp [contains, Covers, notBefore, notAfter, hfirst, hlast, and_assoc]

/-! ### Criteria -/

namespace CriteriaExpr

/-- Every pattern of the criteria can be read. -/
structure Readable (c : CriteriaExpr) : Prop where
  content : ∀ x, c.content? = some x → x.Readable
  remark : ∀ x, c.remark? = some x → x.Readable
  voucherRemark : ∀ x, c.voucherRemark? = some x → x.Readable

/-- Everything that is written about the entry and its voucher is so. -/
structure Holds (c : CriteriaExpr) (e : Entry) (v : Voucher) : Prop where
  owner : ∀ owner, c.owner? = some owner → e.owner? = some owner
  currency : ∀ currency, c.currency? = some currency → e.currency = currency
  account : ∀ account, c.account? = some account → e.account = account
  subaccount : ∀ s, c.subaccount? = some s → s.Fits e.subaccount?
  content : ∀ x, c.content? = some x → x.Fits e.content?
  remark : ∀ x, c.remark? = some x → x.Fits e.remark?
  amount : ∀ a, c.amount? = some a → ∃ b, e.amount? = some b ∧ a.value = b.value
  sign : ∀ s, c.sign? = some s → s.Fits e.amount?
  kind : ∀ kind, c.kind? = some kind → v.kind = kind
  voucherRemark : ∀ x, c.voucherRemark? = some x → x.Fits v.remark?
  range : ∀ r, c.range? = some r → r.Covers v.date?

lemma compile_eq_ok {c : CriteriaExpr} {d : Criteria} :
    c.compile = .ok d ↔ ∃ content remark voucherRemark,
      TextExpr.compile c.content? = .ok content ∧ TextExpr.compile c.remark? = .ok remark ∧
      TextExpr.compile c.voucherRemark? = .ok voucherRemark ∧
      d = ⟨⟨c.owner?, c.currency?, c.account?, c.subaccount?.getD .any, content, remark, c.amount?,
        c.sign?.getD .either⟩, ⟨c.kind?, voucherRemark⟩, c.range?⟩ := by
  simp only [compile, bind_eq_ok, pure_eq_ok, Except.ok.injEq]
  constructor
  · rintro ⟨content, hcontent, remark, hremark, voucherRemark, hvoucher, rfl⟩
    exact ⟨content, remark, voucherRemark, hcontent, hremark, hvoucher, rfl⟩
  · rintro ⟨content, remark, voucherRemark, hcontent, hremark, hvoucher, rfl⟩
    exact ⟨content, hcontent, remark, hremark, voucherRemark, hvoucher, rfl⟩

lemma exists_compile_iff {c : CriteriaExpr} : (∃ d, c.compile = .ok d) ↔ c.Readable := by
  constructor
  · rintro ⟨d, hd⟩
    obtain ⟨_, _, _, hcontent, hremark, hvoucher, -⟩ := compile_eq_ok.1 hd
    exact ⟨TextExpr.exists_compile_iff.1 ⟨_, hcontent⟩, TextExpr.exists_compile_iff.1 ⟨_, hremark⟩,
      TextExpr.exists_compile_iff.1 ⟨_, hvoucher⟩⟩
  · intro h
    obtain ⟨content, hcontent⟩ := TextExpr.exists_compile_iff.2 h.content
    obtain ⟨remark, hremark⟩ := TextExpr.exists_compile_iff.2 h.remark
    obtain ⟨voucherRemark, hvoucher⟩ := TextExpr.exists_compile_iff.2 h.voucherRemark
    exact ⟨_, compile_eq_ok.2 ⟨content, remark, voucherRemark, hcontent, hremark, hvoucher, rfl⟩⟩

lemma accepts_iff {c : CriteriaExpr} {d : Criteria} (h : c.compile = .ok d) (e : Entry)
    (v : Voucher) : d.accepts e v = true ↔ c.Holds e v := by
  obtain ⟨content, remark, voucherRemark, hcontent, hremark, hvoucher, rfl⟩ := compile_eq_ok.1 h
  have hsubaccount : (c.subaccount?.getD .any).accepts e.subaccount? = true ↔
      ∀ s, c.subaccount? = some s → s.Fits e.subaccount? := by
    rw [SubaccountFilter.accepts_iff]
    cases c.subaccount? <;> simp [SubaccountFilter.Fits]
  have hsign : (c.sign?.getD .either).accepts e.amount? = true ↔
      ∀ s, c.sign? = some s → s.Fits e.amount? := by
    rw [SignFilter.accepts_iff]
    cases c.sign? <;> simp [SignFilter.Fits]
  have hamount : meets c.amount? (fun a => e.amount?.any a.sameValue) = true ↔
      ∀ a, c.amount? = some a → ∃ b, e.amount? = some b ∧ a.value = b.value := by
    simp only [meets, Option.all_eq_true, Option.any_eq_true, Decimal.sameValue_iff]
  have hrange : inRange c.range? v.date? = true ↔
      ∀ r, c.range? = some r → r.Covers v.date? := by
    simp only [inRange, Option.all_eq_true, DateRange.contains_iff_covers]
  simp only [Criteria.accepts, Criteria.acceptsVoucher, EntryFilter.accepts, VoucherFilter.accepts,
    Bool.and_eq_true, hsubaccount, hsign, hamount, hrange, TextExpr.accepts_iff hcontent,
    TextExpr.accepts_iff hremark, TextExpr.accepts_iff hvoucher]
  simp only [meets, Option.all_eq_true, beq_iff_eq]
  constructor
  · rintro ⟨⟨⟨⟨⟨⟨⟨⟨hac, hsub⟩, hcur⟩, how⟩, ham⟩, hsi⟩, hco⟩, hre⟩, hra, hki, hvr⟩
    exact ⟨how, hcur, hac, hsub, hco, hre, ham, hsi, hki, hvr, hra⟩
  · rintro ⟨how, hcur, hac, hsub, hco, hre, ham, hsi, hki, hvr, hra⟩
    exact ⟨⟨⟨⟨⟨⟨⟨⟨hac, hsub⟩, hcur⟩, how⟩, ham⟩, hsi⟩, hco⟩, hre⟩, hra, hki, hvr⟩

end CriteriaExpr

/-! ### Combinators -/

namespace Combinator

/-- A combinator takes this many operands. -/
def Takes : Combinator → ℕ → Prop
  | union,      n => 1 ≤ n
  | intersect,  n => 1 ≤ n
  | subtract,   n => n = 2
  | complement, n => n = 1
  | forAll,     n => n = 1 ∨ n = 2

lemma exists_apply_iff {c : Combinator} {ts : List FilterTree} :
    (∃ t, c.apply ts = .ok t) ↔ c.Takes ts.length := by
  cases c <;> rcases ts with _ | ⟨s, _ | ⟨t, _ | ⟨u, ts⟩⟩⟩ <;> simp [apply, Takes]

end Combinator

/-! ### Queries -/

namespace QueryExpr

mutual

/-- Each combinator has a number of operands that it takes, and each pattern can be read. -/
def WellFormed : QueryExpr → Prop
  | atom criteria               => criteria.Readable
  | combine combinator operands => combinator.Takes operands.length ∧ AllWellFormed operands

def AllWellFormed : List QueryExpr → Prop
  | []      => True
  | q :: qs => q.WellFormed ∧ AllWellFormed qs

end

mutual

/-- What the query says about an entry of a voucher. A combinator with a number of operands that it does
not take says nothing that could hold. -/
def Holds : QueryExpr → Entry → Voucher → Prop
  | atom criteria,                        e, v => criteria.Holds e v
  | combine .union operands,              e, v => AnyHolds operands e v
  | combine .intersect operands,          e, v => AllHold operands e v
  | combine .subtract [left, right],      e, v => left.Holds e v ∧ ¬ right.Holds e v
  | combine .complement [operand],        e, v => ¬ operand.Holds e v
  | combine .forAll [predicate],          _, v => ∀ e ∈ v.entries, predicate.Holds e v
  | combine .forAll [domain, predicate],  _, v =>
    ∀ e ∈ v.entries, domain.Holds e v → predicate.Holds e v
  | combine _ _,                          _, _ => False

/-- One of the queries holds. -/
def AnyHolds : List QueryExpr → Entry → Voucher → Prop
  | [],      _, _ => False
  | q :: qs, e, v => q.Holds e v ∨ AnyHolds qs e v

/-- All of the queries hold. -/
def AllHold : List QueryExpr → Entry → Voucher → Prop
  | [],      _, _ => True
  | q :: qs, e, v => q.Holds e v ∧ AllHold qs e v

end

end QueryExpr

/-- The tree accepts the entries about which the query holds. -/
def FilterTree.Means (t : FilterTree) (q : QueryExpr) : Prop :=
  ∀ e v, t.accepts e v = true ↔ q.Holds e v

namespace QueryExpr

lemma anyHolds_iff_of_means {qs : List QueryExpr} {ts : List FilterTree}
    (h : List.Forall₂ (fun q t => t.Means q) qs ts) (e : Entry) (v : Voucher) :
    FilterTree.anyAccepts ts e v = true ↔ AnyHolds qs e v := by
  induction h with
  | nil => simp [FilterTree.anyAccepts, AnyHolds]
  | cons ht _ ih => rw [FilterTree.anyAccepts, AnyHolds, Bool.or_eq_true, ht, ih]

lemma allHold_iff_of_means {qs : List QueryExpr} {ts : List FilterTree}
    (h : List.Forall₂ (fun q t => t.Means q) qs ts) (e : Entry) (v : Voucher) :
    FilterTree.allAccept ts e v = true ↔ AllHold qs e v := by
  induction h with
  | nil => simp [FilterTree.allAccept, AllHold]
  | cons ht _ ih => rw [FilterTree.allAccept, AllHold, Bool.and_eq_true, ht, ih]

/-- The tree of a combinator means what the combinator says, if the trees of the operands mean what the
operands say. -/
lemma means_of_apply {c : Combinator} {qs : List QueryExpr} {ts : List FilterTree} {t : FilterTree}
    (h : List.Forall₂ (fun q t => t.Means q) qs ts) (ht : c.apply ts = .ok t) :
    t.Means (.combine c qs) := by
  intro e v
  cases c with
  | union =>
    -- an empty union is refused, so it need not mean anything
    cases ts with
    | nil => cases ht
    | cons _ _ =>
      cases ht
      exact anyHolds_iff_of_means h e v
  | intersect =>
    cases ts with
    | nil => cases ht
    | cons _ _ =>
      cases ht
      exact allHold_iff_of_means h e v
  | subtract =>
    -- only with two operands it is a tree at all
    rcases h with _ | ⟨hleft, _ | ⟨hright, _ | _⟩⟩ <;> cases ht
    simp [FilterTree.accepts, Holds, ← hleft e v, ← hright e v]
  | complement =>
    rcases h with _ | ⟨hoperand, _ | _⟩ <;> cases ht
    simp [FilterTree.accepts, Holds, ← hoperand e v]
  | forAll =>
    rcases h with _ | ⟨hfirst, _ | ⟨hsecond, _ | _⟩⟩ <;> cases ht
    · simp [FilterTree.accepts, Holds, ← hfirst _ v]
    · simp [FilterTree.accepts, Holds, ← hfirst _ v, ← hsecond _ v, imp_iff_not_or]

mutual

/-- A compiled query means what the query says. -/
lemma means_of_compile {q : QueryExpr} {t : FilterTree} (h : q.compile = .ok t) : t.Means q := by
  match q with
  | .atom criteria =>
    simp only [compile, bind_eq_ok, pure_eq_ok, Except.ok.injEq] at h
    obtain ⟨d, hd, rfl⟩ := h
    exact fun e v => criteria.accepts_iff hd e v
  | .combine c qs =>
    simp only [compile, bind_eq_ok] at h
    obtain ⟨ts, hts, ht⟩ := h
    exact means_of_apply (means_of_compileAll hts) ht

lemma means_of_compileAll {qs : List QueryExpr} {ts : List FilterTree}
    (h : compileAll qs = .ok ts) : List.Forall₂ (fun q t => t.Means q) qs ts := by
  match qs with
  | [] =>
    cases h
    exact .nil
  | q :: qs =>
    simp only [compileAll, bind_eq_ok, pure_eq_ok, Except.ok.injEq] at h
    obtain ⟨t, ht, ts, hts, rfl⟩ := h
    exact .cons (means_of_compile ht) (means_of_compileAll hts)

end

mutual

lemma exists_compile_iff (q : QueryExpr) : (∃ t, q.compile = .ok t) ↔ q.WellFormed := by
  match q with
  | .atom criteria =>
    rw [WellFormed, ← CriteriaExpr.exists_compile_iff]
    simp only [compile, bind_eq_ok, pure_eq_ok, Except.ok.injEq]
    exact ⟨fun ⟨_, d, hd, _⟩ => ⟨d, hd⟩, fun ⟨d, hd⟩ => ⟨_, d, hd, rfl⟩⟩
  | .combine c qs =>
    rw [WellFormed, ← exists_compileAll_iff qs]
    simp only [compile, bind_eq_ok]
    constructor
    · rintro ⟨t, ts, hts, ht⟩
      refine ⟨?_, ts, hts⟩
      rw [(means_of_compileAll hts).length_eq]
      exact Combinator.exists_apply_iff.1 ⟨t, ht⟩
    · rintro ⟨htakes, ts, hts⟩
      rw [(means_of_compileAll hts).length_eq] at htakes
      obtain ⟨t, ht⟩ := Combinator.exists_apply_iff.2 htakes
      exact ⟨t, ts, hts, ht⟩

lemma exists_compileAll_iff (qs : List QueryExpr) :
    (∃ ts, compileAll qs = .ok ts) ↔ AllWellFormed qs := by
  match qs with
  | [] => simp [compileAll, AllWellFormed]
  | q :: qs =>
    rw [AllWellFormed, ← exists_compile_iff q, ← exists_compileAll_iff qs]
    simp only [compileAll, bind_eq_ok, pure_eq_ok, Except.ok.injEq]
    constructor
    · rintro ⟨_, t, ht, ts, hts, _⟩
      exact ⟨⟨t, ht⟩, ts, hts⟩
    · rintro ⟨⟨t, ht⟩, ts, hts⟩
      exact ⟨_, t, ht, ts, hts, rfl⟩

end

/-- The well-formed queries are those that can be compiled, and the tree of a query accepts exactly the
entries about which the query holds. -/
theorem compile_iff (q : QueryExpr) :
    ((∃ t, q.compile = .ok t) ↔ q.WellFormed) ∧
    ∀ t, q.compile = .ok t → ∀ e v, t.accepts e v = true ↔ q.Holds e v :=
  ⟨exists_compile_iff q, fun _ => means_of_compile⟩

/-- The vouchers that take no cash out: all of their entries on its account have a positive amount. -/
def inflows : QueryExpr :=
  .combine .forAll [.onAccount 1001, .atom { CriteriaExpr.any with sign? := some .positive }]

/-- The entries of a sale are among the inflows, those of a payment are not; and nothing can be taken
off the inflows without a second operand. -/
theorem inflows_of_sale_not_payment :
    inflows.WellFormed ∧ (∀ e, inflows.Holds e .sale) ∧ (∀ e, ¬ inflows.Holds e .payment) ∧
      ¬ (combine .subtract [inflows]).WellFormed :=
  ⟨(compile_iff inflows).1.1 ⟨_, rfl⟩,
    fun e => ((compile_iff inflows).2 _ rfl e .sale).1 rfl,
    fun e => mt ((compile_iff inflows).2 _ rfl e .payment).2 (by rintro ⟨⟩),
    mt (compile_iff (.combine .subtract [inflows])).1.2 (by rintro ⟨_, ⟨⟩⟩)⟩

end QueryExpr

end Daybook
