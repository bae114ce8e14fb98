import Daybook.Proofs.Outcome
import Daybook.Proofs.Voucher.Distinct
import Daybook.Voucher.Validation

/-!
# Broken rules

A voucher `Breaks` a rule if it does not meet what the rule asks for, and it is `Bookable` if it meets all that
is asked for. The check lists the rules that are broken, each once and in order: entry by entry, then one
currency after the other as they appear in the entries (`Voucher.exists_violations`). So it lists nothing
exactly if the voucher is bookable (`Voucher.violations_eq_nil_iff`).
-/

namespace Daybook

/-! ### Entries -/

namespace Entry

variable {e : Entry} {es : List Entry} {index : ℕ} {rule : Rule}

/-- The entry, which has a number in its voucher, breaks a rule. -/
inductive Breaks (e : Entry) (index : ℕ) : Rule → Prop
  | account (h : ¬ (1000 ≤ e.account.toNat ∧ e.account.toNat ≤ 9999)) :
      e.Breaks index (.accountDigits index e.account)
  | subaccount {code : UInt8} (hcode : e.subaccount? = some code) (h : 99 < code.toNat) :
      e.Breaks index (.subaccountDigits index code)
  | currency (h : Text.allBlank e.currency = true) : e.Breaks index (.blankCurrency index)
  | amount (h : e.amount? = none) : e.Breaks index (.missingAmount index e.account)

/-- The codes have four and two digits, and the currency and the amount are given. -/
structure Bookable (e : Entry) : Prop where
  account : 1000 ≤ e.account.toNat ∧ e.account.toNat ≤ 9999
  subaccount : ∀ code, e.subaccount? = some code → code.toNat ≤ 99
  currency : Text.allBlank e.currency = false
  amount : e.amount? ≠ none

lemma bookable_iff (e : Entry) (index : ℕ) : e.Bookable ↔ ∀ rule, ¬ e.Breaks index rule := by
  constructor
  · rintro h rule (hbroken | ⟨hcode, hbroken⟩ | hbroken | hbroken)
    · exact hbroken h.account
    · exact absurd (h.subaccount _ hcode) (by omega)
    · rw [h.currency] at hbroken
      cases hbroken
    · exact h.amount hbroken
  · intro h
    constructor
    case account => exact by_contra fun hbroken => h _ (.account hbroken)
    case subaccount => exact fun code hcode => by_contra fun hbroken => h _ (.subaccount hcode (by omega))
    case currency => exact Bool.eq_false_iff.2 fun hbroken => h _ (.currency hbroken)
    case amount => exact fun hbroken => h _ (.amount hbroken)

/-- Listed are exactly the rules that the entry breaks. -/
lemma mem_violations : rule ∈ e.violations index ↔ e.Breaks index rule := by
  simp only [violations, List.mem_append]
  constructor
  · rintro (((h | h) | h) | h)
    · split at h
      · cases h
      · next hbroken => exact List.mem_singleton.1 h ▸ .account hbroken
    · split at h
      · next code hcode =>
        split at h
        · cases h
        · exact List.mem_singleton.1 h ▸ .subaccount hcode (by omega)
      · cases h
    · split at h
      · next hbroken => exact List.mem_singleton.1 h ▸ .currency hbroken
      · cases h
    · split at h
      · cases h
      · next hbroken => exact List.mem_singleton.1 h ▸ .amount (by simpa using hbroken)
  · rintro (h | ⟨hcode, h⟩ | h | h)
    · simp [h]
    · simp [hcode, h]
    · simp [h]
    · simp [h]

/-- All that can be wrong with the entry. -/
def possibleViolations (e : Entry) (index : ℕ) : List Rule :=
  [.accountDigits index e.account] ++ [.subaccountDigits index (e.subaccount?.getD 0)] ++
    [.blankCurrency index] ++ [.missingAmount index e.account]

lemma violations_sublist (e : Entry) (index : ℕ) :
    (e.violations index).Sublist (e.possibleViolations index) := by
  refine ((List.Sublist.append ?account ?subaccount).append ?currency).append ?amount
  case account | currency | amount => split <;> simp
  case subaccount =>
    cases e.subaccount? with
    | none => simp
    | some code =>
      dsimp only [Option.getD_some]
      split <;> simp

lemma mem_allViolations : rule ∈ allViolations index es ↔
    ∃ (k : ℕ) (e : Entry), es[k]? = some e ∧ e.Breaks (index + k) rule := by
  induction es generalizing index with
  | nil => simp [allViolations]
  | cons e es ih =>
    rw [allViolations, List.mem_append, mem_violations, ih]
    constructor
    · rintro (h | ⟨k, e', he', h⟩)
      · exact ⟨0, e, rfl, h⟩
      · exact ⟨k + 1, e', he', by rwa [Nat.add_assoc, Nat.add_comm 1] at h⟩
    · rintro ⟨_ | k, e', he', h⟩
      · cases he'
        exact .inl h
      · exact .inr ⟨k, e', he', by rwa [Nat.add_assoc, Nat.add_comm 1]⟩

end Entry

/-! ### Order -/

namespace Voucher

variable {v : Voucher} {currency : String} {rules : List Rule} {rule : Rule}

/-- Where a rule comes up. The entries are gone through one by one, and each is looked at for its account, its
subaccount, its currency and its amount; the currencies come behind the entries, by the first entry in each. -/
def place (v : Voucher) : Rule → ℕ ×ₗ ℕ
  | .noEntries               => toLex (0, 0)
  | .accountDigits index _    => toLex (index, 0)
  | .subaccountDigits index _ => toLex (index, 1)
  | .blankCurrency index      => toLex (index, 2)
  | .missingAmount index _    => toLex (index, 3)
  | .unbalanced currency _    =>
    toLex (v.entries.length + (v.entries.map (·.currency)).idxOf currency, 0)

/-- Each rule comes up after the ones before it. -/
def Ordered (v : Voucher) (rules : List Rule) : Prop :=
  rules.Pairwise fun r s => v.place r < v.place s

/-- What an entry breaks comes up at the entry. -/
lemma place_of_breaks {e : Entry} {index : ℕ} (h : e.Breaks index rule) :
    (ofLex (v.place rule)).1 = index := by
  cases h <;> rfl

lemma place_lt {r s : Rule} (h : (ofLex (v.place r)).1 < (ofLex (v.place s)).1) :
    v.place r < v.place s :=
  Prod.Lex.lt_iff.2 (.inl h)

lemma ordered_violations (v : Voucher) (e : Entry) (index : ℕ) : v.Ordered (e.violations index) := by
  have ordered : v.Ordered (e.possibleViolations index) := by
    simp [Ordered, Entry.possibleViolations, place, Prod.Lex.lt_iff]
  exact ordered.sublist (e.violations_sublist index)

lemma ordered_allViolations (v : Voucher) (es : List Entry) (index : ℕ) :
    v.Ordered (Entry.allViolations index es) := by
  induction es generalizing index with
  | nil => exact .nil
  | cons e es ih =>
    refine List.pairwise_append.2 ⟨v.ordered_violations e index, ih _, fun r hr s hs => place_lt ?_⟩
    obtain ⟨k, _, _, hs⟩ := Entry.mem_allViolations.1 hs
    rw [place_of_breaks (Entry.mem_violations.1 hr), place_of_breaks hs]
    omega

/-! ### Balances -/

/-- The amounts in every currency can be added up. -/
def BalancesFit (v : Voucher) : Prop :=
  ∀ currency ∈ v.currencies, ∀ o, v.balanceIn? .rounding currency ≠ .error o

/-- There is a balance in each currency of the entries, and in no other. -/
lemma balanceIn?_eq_some {A : Arithmetic} {total : Decimal} :
    v.balanceIn? A currency = .ok (some total) ↔
      currency ∈ v.currencies ∧ A.sum ((v.entriesIn currency).map Entry.amount) = .ok total := by
  rw [balanceIn?, bind_eq_ok]
  by_cases hmem : currency ∈ v.currencies
  · simp [List.isEmpty_iff, entriesIn_eq_nil_iff, hmem]
  · simp [List.isEmpty_iff, entriesIn_eq_nil_iff, hmem]

lemma BalancesFit.exists_balance (fits : v.BalancesFit) (hmem : currency ∈ v.currencies) :
    ∃ total, v.balanceIn? .rounding currency = .ok (some total) := by
  cases hsum : Arithmetic.rounding.sum ((v.entriesIn currency).map Entry.amount) with
  | error o => exact absurd (by rw [balanceIn?, hsum]; rfl) (fits currency hmem o)
  | ok total => exact ⟨total, balanceIn?_eq_some.2 ⟨hmem, hsum⟩⟩

lemma imbalance_eq_ok : v.imbalance currency = .ok rules ↔
    ∃ total?, v.balanceIn? .rounding currency = .ok total? ∧
      rules = if (total?.getD .zero).isZero then [] else [.unbalanced currency (total?.getD .zero)] := by
  rw [imbalance, bind_eq_ok]
  exact exists_congr fun _ => and_congr_right fun _ => by rw [pure_eq_ok, Except.ok.injEq, eq_comm]

/-- A rule is broken in a currency if its balance is not zero. -/
lemma mem_of_imbalance (h : v.imbalance currency = .ok rules) : rule ∈ rules ↔
    ∃ residual, v.balanceIn? .rounding currency = .ok (some residual) ∧ residual.isZero = false ∧
      rule = .unbalanced currency residual := by
  obtain ⟨total?, htotal, rfl⟩ := imbalance_eq_ok.1 h
  rw [htotal]
  cases total? with
  | none => simp [Decimal.isZero, Decimal.zero]
  | some total => cases hzero : total.isZero <;> simp [hzero]

/-- The currencies are gone through in order, so what they break is in order. -/
lemma ordered_imbalances {currencies : List String} {imbalances : List (List Rule)}
    (ordered : currencies.Pairwise fun c d =>
      (v.entries.map (·.currency)).idxOf c < (v.entries.map (·.currency)).idxOf d)
    (h : List.Forall₂ (fun c rules => v.imbalance c = .ok rules) currencies imbalances) :
    v.Ordered imbalances.flatten := by
  induction h with
  | nil => exact .nil
  | @cons c rules _ imbalances hc hrest ih =>
    obtain ⟨before, ordered⟩ := List.pairwise_cons.1 ordered
    refine List.pairwise_append.2 ⟨?_, ih ordered, fun r hr s hs => place_lt ?_⟩
    · obtain ⟨_, _, rfl⟩ := imbalance_eq_ok.1 hc
      split <;> simp
    · obtain ⟨_, _, _, rfl⟩ := (mem_of_imbalance hc).1 hr
      obtain ⟨_, hmem, hs⟩ := List.mem_flatten.1 hs
      obtain ⟨d, hd, himbalance⟩ := exists_of_mem_forall₂ hrest hmem
      obtain ⟨_, _, _, rfl⟩ := (mem_of_imbalance himbalance).1 hs
      exact Nat.add_lt_add_left (before d hd) _

/-- Over all currencies, a rule is broken for each balance that is not zero. -/
lemma mem_imbalances {imbalances : List (List Rule)}
    (h : List.Forall₂ (fun c rules => v.imbalance c = .ok rules) v.currencies imbalances) :
    rule ∈ imbalances.flatten ↔ ∃ currency residual,
      v.balanceIn? .rounding currency = .ok (some residual) ∧ residual.isZero = false ∧
        rule = .unbalanced currency residual := by
  rw [List.mem_flatten]
  constructor
  · rintro ⟨rules, hrules, hrule⟩
    obtain ⟨currency, _, himbalance⟩ := exists_of_mem_forall₂ h hrules
    exact ⟨currency, (mem_of_imbalance himbalance).1 hrule⟩
  · rintro ⟨currency, residual, hresidual, hbroken⟩
    have hmem := (balanceIn?_eq_some.1 hresidual).1
    obtain ⟨rules, hrules, himbalance⟩ := exists_of_mem_forall₂ h.flip hmem
    exact ⟨rules, hrules, (mem_of_imbalance himbalance).2 ⟨residual, hresidual, hbroken⟩⟩

/-! ### Vouchers -/

/-- The voucher breaks a rule. -/
inductive Breaks (v : Voucher) : Rule → Prop
  | noEntries (h : v.entries = []) : v.Breaks .noEntries
  | entry {index : ℕ} {e : Entry} {rule : Rule} (he : v.entries[index]? = some e)
      (h : e.Breaks index rule) : v.Breaks rule
  | unbalanced {currency : String} {residual : Decimal}
      (h : v.balanceIn? .rounding currency = .ok (some residual)) (hne : residual.isZero = false) :
      v.Breaks (.unbalanced currency residual)

/-- There are entries, each of them can be booked, and the balance in each of their currencies is zero. -/
structure Bookable (v : Voucher) : Prop where
  entries_ne_nil : v.entries ≠ []
  entries : ∀ e ∈ v.entries, e.Bookable
  balanced : ∀ currency ∈ v.currencies,
    ∃ total, v.balanceIn? .rounding currency = .ok (some total) ∧ total.isZero = true

/-- The rules are those that the voucher breaks, each once and in order. -/
structure Lists (v : Voucher) (rules : List Rule) : Prop where
  mem_iff : ∀ rule, rule ∈ rules ↔ v.Breaks rule
  nodup : rules.Nodup
  ordered : v.Ordered rules

/-- A voucher can be booked if it breaks no rule. -/
theorem bookable_iff (fits : v.BalancesFit) : v.Bookable ↔ ∀ rule, ¬ v.Breaks rule := by
  constructor
  · intro h rule hbroken
    cases hbroken with
    | noEntries hnone => exact h.entries_ne_nil hnone
    | entry he hbroken => exact (Entry.bookable_iff _ _).1 (h.entries _ (List.mem_of_getElem? he)) _ hbroken
    | unbalanced hresidual hne =>
      obtain ⟨total, htotal, hzero⟩ := h.balanced _ (balanceIn?_eq_some.1 hresidual).1
      cases hresidual.symm.trans htotal
      rw [hzero] at hne
      cases hne
  · intro h
    constructor
    case entries_ne_nil => exact fun hnone => h _ (.noEntries hnone)
    case entries =>
      intro e he
      obtain ⟨index, he⟩ := List.mem_iff_getElem?.1 he
      exact (e.bookable_iff index).2 fun rule hbroken => h rule (.entry he hbroken)
    case balanced =>
      intro currency hmem
      obtain ⟨total, htotal⟩ := fits.exists_balance hmem
      refine ⟨total, htotal, ?_⟩
      by_contra hne
      exact h _ (.unbalanced htotal (Bool.eq_false_iff.2 hne))

lemma lists_of_ordered (h : ∀ rule, rule ∈ rules ↔ v.Breaks rule) (ordered : v.Ordered rules) :
    v.Lists rules :=
  ⟨h, ordered.imp fun hlt heq => (lt_irrefl _ (heq ▸ hlt)).elim, ordered⟩

/-- A voucher without entries breaks that rule alone. -/
lemma breaks_of_no_entries (h : v.entries = []) : v.Breaks rule ↔ rule = .noEntries := by
  constructor
  · intro hbroken
    cases hbroken with
    | noEntries => rfl
    | entry he => simp [h] at he
    | unbalanced hresidual =>
      have hmem := (balanceIn?_eq_some.1 hresidual).1
      simp [currencies, h, distinct] at hmem
  · rintro rfl
    exact .noEntries h

/-- The check lists what the voucher breaks. -/
theorem exists_violations (fits : v.BalancesFit) : ∃ rules, v.violations = .ok rules ∧ v.Lists rules := by
  by_cases hnone : v.entries = []
  · refine ⟨[.noEntries], by rw [violations, hnone]; rfl, lists_of_ordered ?_ (List.pairwise_singleton _ _)⟩
    intro rule
    rw [breaks_of_no_entries hnone, List.mem_singleton]
  obtain ⟨imbalances, himbalances⟩ : ∃ rules, v.currencies.mapM v.imbalance = .ok rules := by
    refine exists_mapM fun currency hmem => ?_
    obtain ⟨total, htotal⟩ := fits.exists_balance hmem
    exact ⟨_, imbalance_eq_ok.2 ⟨_, htotal, rfl⟩⟩
  have found := mapM_eq_ok.1 himbalances
  refine ⟨Entry.allViolations 0 v.entries ++ imbalances.flatten, ?_, lists_of_ordered ?_ ?_⟩
  · rw [violations, if_neg (by simpa using hnone), himbalances]
    rfl
  · intro rule
    rw [List.mem_append, Entry.mem_allViolations, mem_imbalances found]
    constructor
    · rintro (⟨index, e, he, h⟩ | ⟨currency, residual, hresidual, hne, rfl⟩)
      · exact .entry he (by rwa [Nat.zero_add] at h)
      · exact .unbalanced hresidual hne
    · intro h
      cases h with
      | noEntries h => exact absurd h hnone
      | entry he h => exact .inl ⟨_, _, he, by rwa [Nat.zero_add]⟩
      | unbalanced hresidual hne => exact .inr ⟨_, _, hresidual, hne, rfl⟩
  · refine List.pairwise_append.2 ⟨v.ordered_allViolations _ _,
      ordered_imbalances (pairwise_distinct _) found, fun r hr s hs => place_lt ?_⟩
    -- an entry has a number below the number of entries, and the currencies come behind them
    obtain ⟨index, e, he, hr⟩ := Entry.mem_allViolations.1 hr
    obtain ⟨currency, residual, _, _, rfl⟩ := (mem_imbalances found).1 hs
    have hindex : index < v.entries.length := (List.getElem?_eq_some_iff.1 he).1
    rw [place_of_breaks hr, Nat.zero_add]
    exact Nat.lt_add_right _ hindex

lemma Lists.eq_nil_iff (h : v.Lists rules) (fits : v.BalancesFit) : rules = [] ↔ v.Bookable := by
  rw [bookable_iff fits, List.eq_nil_iff_forall_not_mem]
  exact forall_congr' fun rule => not_congr (h.mem_iff rule)

lemma Bookable.balancesFit (h : v.Bookable) : v.BalancesFit := by
  intro currency hmem o
  obtain ⟨total, htotal, _⟩ := h.balanced currency hmem
  exact ne_error_of_eq_ok htotal o

/-- A check that comes to an end has worked out all balances. -/
lemma balancesFit_of_violations (h : v.violations = .ok rules) : v.BalancesFit := by
  intro currency hmem o herror
  unfold violations at h
  split at h
  · next hnone => simp [currencies, List.isEmpty_iff.1 hnone, distinct] at hmem
  · obtain ⟨imbalances, himbalances, _⟩ := bind_eq_ok.1 h
    obtain ⟨_, _, himbalance⟩ := exists_of_mem_forall₂ (mapM_eq_ok.1 himbalances).flip hmem
    obtain ⟨_, htotal, _⟩ := imbalance_eq_ok.1 himbalance
    cases herror.symm.trans htotal

/-- The check comes to an end without broken rules exactly if the voucher can be booked. -/
theorem violations_eq_nil_iff : v.violations = .ok [] ↔ v.Bookable := by
  constructor
  · intro h
    have fits := balancesFit_of_violations h
    obtain ⟨rules, hrules, lists⟩ := exists_violations fits
    cases h.symm.trans hrules
    exact (lists.eq_nil_iff fits).1 rfl
  · intro h
    obtain ⟨rules, hrules, lists⟩ := exists_violations h.balancesFit
    rw [hrules, (lists.eq_nil_iff h.balancesFit).2 h]

instance (v : Voucher) : Decidable v.Bookable := decidable_of_iff _ violations_eq_nil_iff

lemma findings_of_violations (h : v.violations = .ok rules) :
    v.findings = .ok (rules.map fun rule => ⟨rule, v.id?, v.date?⟩) := by
  rw [findings, h]
  rfl

end Voucher

end Daybook
