import Daybook.Proofs.Calendar.Day
import Daybook.Proofs.Decimal.Lossless
import Daybook.Proofs.Voucher.Violations

/-!
# Balance of vouchers

A voucher is found to be unbalanced in exactly the currencies in which its amounts do not add up to zero,
in whatever order they are written (`unbalancedIn_iff`). This holds of vouchers whose amounts can be added
up without loss. Where an addition rounds, a residual may go unnoticed (`tenthLeft_unnoticed`).
-/

namespace Daybook

variable {v w : Voucher} {currency : String}

/-- Among the findings is one that says that the amounts in a currency do not add up to zero. -/
def UnbalancedIn (fs : List Finding) (currency : String) : Prop :=
  ∃ f ∈ fs, f.rule.code = "E3001" ∧ f.rule.context? = some currency

namespace Voucher

/-- The exact sum of the known amounts in a currency. -/
def exactBalance (v : Voucher) (currency : String) : ℚ :=
  (((v.entriesIn currency).filterMap (·.amount?)).map Decimal.value).sum

/-- In every currency the amounts are added up without rounding or overflow. -/
def AddsUp (v : Voucher) : Prop :=
  ∀ currency, ∃ total, Arithmetic.lossless.sum ((v.entriesIn currency).map Entry.amount) = .ok total

lemma sum_value_amount (es : List Entry) :
    ((es.map Entry.amount).map Decimal.value).sum
      = ((es.filterMap (·.amount?)).map Decimal.value).sum := by
  induction es with
  | nil => rfl
  | cons e es ih => cases h : e.amount? <;> simp_all [Entry.amount]

lemma exactBalance_of_perm (h : w.entries.Perm v.entries) (currency : String) :
    w.exactBalance currency = v.exactBalance currency :=
  (((h.filter _).filterMap _).map _).sum_eq

lemma exactBalance_of_not_mem (h : currency ∉ v.currencies) : v.exactBalance currency = 0 := by
  rw [exactBalance, entriesIn_eq_nil_iff.2 h]
  rfl

/-- Amounts that can be added up all together add up in every currency and in any order. -/
lemma AddsUp.of_addable (h : Addable ((v.entries.map Entry.amount).map Decimal.value)) : v.AddsUp := by
  intro currency
  have part : ((v.entriesIn currency).map Entry.amount).Sublist (v.entries.map Entry.amount) :=
    List.filter_sublist.map _
  exact (Arithmetic.sum_of_addable (h.of_sublist (part.map _))).imp fun _ ht => ht.1

/-- Then the balance is the exact one, and the rule is broken unless it is zero. -/
lemma AddsUp.imbalance (h : v.AddsUp) (currency : String) :
    ∃ total, v.imbalance currency
        = .ok (if total.isZero then [] else [.unbalanced currency total]) ∧
      total.value = v.exactBalance currency := by
  obtain ⟨total, htotal⟩ := h currency
  have hsum : Arithmetic.rounding.sum ((v.entriesIn currency).map Entry.amount) = .ok total :=
    Arithmetic.sum_confirmed Arithmetic.lossless_refines_rounding _ htotal
  refine ⟨total, ?_, by rw [Arithmetic.value_of_sum htotal, sum_value_amount, exactBalance]⟩
  rw [Voucher.imbalance, balanceIn?, hsum]
  cases hnone : v.entriesIn currency with
  | nil =>
    rw [hnone] at hsum
    cases hsum
    rfl
  | cons e es => rfl

/-- What is wrong with the entries themselves is not that they do not balance. -/
lemma code_of_mem_allViolations {es : List Entry} {index : ℕ} {rule : Rule}
    (h : rule ∈ Entry.allViolations index es) : rule.code ≠ "E3001" := by
  obtain ⟨_, _, _, h⟩ := Entry.mem_allViolations.1 h
  cases h <;> simp [Rule.code]

/-- The check of such a voucher ends well, and it finds the unbalanced currencies. -/
theorem AddsUp.findings (h : v.AddsUp) (hentries : v.entries ≠ []) :
    ∃ fs, v.findings = .ok fs ∧
      ∀ currency, UnbalancedIn fs currency ↔ v.exactBalance currency ≠ 0 := by
  obtain ⟨imbalances, himbalances⟩ : ∃ rules, v.currencies.mapM v.imbalance = .ok rules := by
    refine exists_mapM fun currency _ => ?_
    obtain ⟨total, ht, _⟩ := h.imbalance currency
    exact ⟨_, ht⟩
  have members := mapM_eq_ok.1 himbalances
  refine ⟨_, by rw [Voucher.findings, violations, if_neg (by simpa using hentries), himbalances]; rfl,
    fun currency => ?_⟩
  constructor
  · rintro ⟨f, hf, hcode, hcontext⟩
    obtain ⟨rule, hrule, rfl⟩ := List.mem_map.1 hf
    rcases List.mem_append.1 hrule with hrule | hrule
    · exact absurd hcode (code_of_mem_allViolations hrule)
    · -- among the balances: each currency has its own finding
      obtain ⟨rules, hrules, hrule⟩ := List.mem_flatten.1 hrule
      obtain ⟨other, _, hok⟩ := exists_of_mem_forall₂ members hrules
      obtain ⟨total, ht, hvalue⟩ := h.imbalance other
      cases ht.symm.trans hok
      split at hrule
      · cases hrule
      · next hzero =>
        obtain rfl := List.mem_singleton.1 hrule
        cases hcontext
        rwa [Decimal.isZero_iff, hvalue] at hzero
  · intro hne
    have hmem : currency ∈ v.currencies := by
      by_contra hnone
      exact hne (exactBalance_of_not_mem hnone)
    obtain ⟨rules, hrules, hok⟩ := exists_of_mem_forall₂ members.flip hmem
    obtain ⟨total, ht, hvalue⟩ := h.imbalance currency
    rw [ht, if_neg (by rw [Decimal.isZero_iff, hvalue]; exact hne)] at hok
    cases hok
    exact ⟨_, List.mem_map.2 ⟨.unbalanced currency total, List.mem_append_right _
      (List.mem_flatten.2 ⟨_, hrules, List.mem_singleton_self _⟩), rfl⟩, rfl, rfl⟩

end Voucher

/-- Amounts that add up without loss are found to be unbalanced in exactly those currencies in which
their exact sum is not zero; so are the same amounts in any other order in which they add up. -/
theorem unbalancedIn_iff (hentries : v.entries ≠ []) (h : v.AddsUp) :
    (∃ fs, v.findings = .ok fs ∧
      ∀ currency, UnbalancedIn fs currency ↔ v.exactBalance currency ≠ 0) ∧
    ∀ w : Voucher, w.entries.Perm v.entries → w.AddsUp → ∃ fs, w.findings = .ok fs ∧
      ∀ currency, UnbalancedIn fs currency ↔ v.exactBalance currency ≠ 0 := by
  refine ⟨h.findings hentries, fun w hw hadds => ?_⟩
  obtain ⟨fs, hfs, hiff⟩ := hadds.findings fun hnil => hentries (List.nil_perm.1 (hnil ▸ hw))
  refine ⟨fs, hfs, fun currency => ?_⟩
  rw [hiff, Voucher.exactBalance_of_perm hw]

/-- A sale on the last day of January. -/
def Voucher.sale : Voucher where
  id? := some "sale"
  date? := Date.of? 2026 1 31
  kind := .ordinary
  remark? := none
  entries := [.plain 1001 (Decimal.of? 1250 2), .plain 6001 (Decimal.of? (-125) 1)]

/-- Cash brought to the bank, without id. -/
def Voucher.deposit : Voucher where
  id? := none
  date? := some .january30
  kind := .ordinary
  remark? := none
  entries := [.plain 1002 (Decimal.of? 40 0), .plain 1001 (Decimal.of? (-40) 0)]

/-- Both balance, though the amounts of the sale are written with different places. -/
example : findings [.sale, .deposit] = .ok [] := by decide

/-- A hundred of one currency against a hundred of another, on one account. -/
def Voucher.exchange : Voucher where
  id? := some "exchange"
  date? := some .january30
  kind := .ordinary
  remark? := none
  entries := [.plain 1001 (Decimal.of? 100 0),
    { Entry.plain 1001 (Decimal.of? (-100) 0) with currency := "USD" }]

/-- A hundred of each of two currencies is open, whichever comes first. -/
theorem exchange_unbalanced : Voucher.exchange.entries ≠ [] ∧ Voucher.exchange.AddsUp ∧
    ∃ fs, { Voucher.exchange with entries := Voucher.exchange.entries.reverse }.findings = .ok fs ∧
      UnbalancedIn fs "CNY" ∧ UnbalancedIn fs "USD" ∧ ¬ UnbalancedIn fs "EUR" := by
  have addsUp : Voucher.exchange.AddsUp :=
    .of_addable (.of_mantissas (s := 0) (by decide) (by decide) (by decide))
  have addsUp' : { Voucher.exchange with entries := Voucher.exchange.entries.reverse }.AddsUp :=
    .of_addable (.of_mantissas (s := 0) (by decide) (by decide) (by decide))
  refine ⟨by decide, addsUp, ?_⟩
  obtain ⟨fs, hfs, hiff⟩ :=
    (unbalancedIn_iff (by decide) addsUp).2 _ (List.reverse_perm _) addsUp'
  refine ⟨fs, hfs, (hiff _).2 (by decide +kernel), (hiff _).2 (by decide +kernel), ?_⟩
  rw [hiff]
  decide +kernel

/-- An entry of which only the currency and the amount matter. -/
def Entry.single (currency : String) (amount : Decimal) : Entry :=
  { plain 1001 (some amount) with currency := currency }

/-- The largest amount. -/
def Decimal.largest : Decimal := ⟨2 ^ 96 - 1, 0, false, by decide, zero.scale_le, nofun⟩

/-- The lowest amount. -/
def Decimal.lowest : Decimal := ⟨1 - 2 ^ 96, 0, false, by decide, zero.scale_le, nofun⟩

/-- The largest amount and a tenth against the lowest amount. -/
def Voucher.tenthLeft : Voucher where
  id? := none
  date? := some .january30
  kind := .ordinary
  remark? := none
  entries := [.single "CNY" .largest, .single "CNY" .tenth, .single "CNY" .lowest]

/-- A tenth is lost when it is added to the largest amount, so it does not come up when that is taken off
again. In another order it does. -/
theorem tenthLeft_unnoticed : Voucher.tenthLeft.findings = .ok [] ∧
    Voucher.tenthLeft.exactBalance "CNY" ≠ 0 ∧
    ∃ w : Voucher, w.entries.Perm Voucher.tenthLeft.entries ∧
      ∃ fs, w.findings = .ok fs ∧ UnbalancedIn fs "CNY" := by
  refine ⟨by decide +kernel, by decide +kernel, ?_⟩
  refine ⟨{ Voucher.tenthLeft with
    entries := [.single "CNY" .largest, .single "CNY" .lowest, .single "CNY" .tenth] }, ?_, ?_⟩
  · exact .cons _ (.swap _ _ _)
  · have found : ∀ f ∈ [(⟨.unbalanced "CNY" .tenth, none, some .january30⟩ : Finding)],
        f.rule.code = "E3001" ∧ f.rule.context? = some "CNY" := by decide
    exact ⟨_, by decide +kernel, _, List.mem_singleton_self _, found _ (List.mem_singleton_self _)⟩

end Daybook
