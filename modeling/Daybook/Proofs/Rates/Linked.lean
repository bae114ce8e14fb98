import Daybook.Proofs.Rates.Rate

/-!
# Linked currencies

Where the latest prices link two currencies by one or two legs, their rate is not missing
(`rates_of_linked`): the search for a third currency comes by every one that would do. Prices that are
zero are never divided by.
-/

namespace Daybook

namespace PriceTable

variable {t : PriceTable} {given : List Quote} {date : Date} {base unit via : String}
  {a b first : Decimal} {α : Type} {search : α → Except Overflow (Option Decimal)} {xs : List α}

/-! ### Links -/

/-- A leg from one currency to another: there is a price one way, or one the other way that is not
zero. -/
def Leg (given : List Quote) (date : Date) (source target : String) : Prop :=
  (∃ a, LatestPrice given date source target a) ∨
    ∃ a, LatestPrice given date target source a ∧ a.isZero = false

/-- The currencies are the same, or there are one or two legs from one to the other. -/
def Linked (given : List Quote) (date : Date) (source target : String) : Prop :=
  source = target ∨ Leg given date source target ∨
    ∃ via, Leg given date source via ∧ Leg given date via target

lemma eq_none_of_firstFound (h : firstFound search xs = .ok none) : ∀ x ∈ xs, search x = .ok none := by
  induction xs with
  | nil => simp
  | cons x xs ih =>
    rw [firstFound, bind_eq_ok] at h
    obtain ⟨found, hfound, h⟩ := h
    cases found with
    | some s => simp at h
    | none => exact List.forall_mem_cons.2 ⟨hfound, ih h⟩

/-- With a second leg, the search goes no further. -/
lemma Holds.secondLeg?_ne_none (h : t.Holds given) (leg : Leg given date via unit) :
    t.secondLeg? first via unit date ≠ .ok none := by
  have map_ne_none : ∀ x : Except Overflow Decimal, x.map some ≠ .ok none := by
    intro x hx
    cases x <;> cases hx
  intro hnone
  rw [secondLeg?] at hnone
  split at hnone
  · exact map_ne_none _ hnone
  · next hunquoted =>
    rcases leg with ⟨a, ha⟩ | ⟨a, ha, hzero⟩
    · exact h.price?_eq_none.1 hunquoted a ha
    · rw [h.price?_eq_some.2 ha] at hnone
      simp only [hzero, Bool.false_eq_true, if_false] at hnone
      exact map_ne_none _ hnone

/-- Without a rate there is no leg. -/
lemma Holds.not_leg (h : t.Holds given) (hne : base ≠ unit) (hnone : t.rate? base unit date = .ok none) :
    ¬ Leg given date base unit ∧ t.chained? base unit date = .ok none := by
  rw [rate?, if_neg hne] at hnone
  split at hnone
  · cases hnone
  · next hunquoted =>
    have unquoted := h.price?_eq_none.1 hunquoted
    split at hnone
    · next price hprice =>
      split at hnone
      · next hzero =>
        refine ⟨?_, hnone⟩
        rintro (⟨a, ha⟩ | ⟨a, ha, hnonZero⟩)
        · exact unquoted a ha
        · rw [← h.price?_eq_some, hprice, Option.some.injEq] at ha
          rw [ha, hnonZero] at hzero
          cases hzero
      · -- a price that can be inverted gives a rate
        obtain ⟨_, _, hsome⟩ := map_eq_ok.1 hnone
        cases hsome
    · next hback =>
      refine ⟨?_, hnone⟩
      rintro (⟨a, ha⟩ | ⟨a, ha, _⟩)
      · exact unquoted a ha
      · exact h.price?_eq_none.1 hback a ha

/-- Without a rate over a third currency there are no two legs. -/
lemma Holds.not_legs (h : t.Holds given) (hnone : t.chained? base unit date = .ok none)
    (hvia : via ≠ unit) (leg : Leg given date base via) : ¬ Leg given date via unit := by
  intro second
  obtain ⟨found, hfound, hrest⟩ := bind_eq_ok.1 hnone
  cases found with
  | some s => simp at hrest
  | none =>
    rcases leg with ⟨a, ha⟩ | ⟨a, ha, hzero⟩
    · -- the first leg is quoted, so the unit of its price is tried
      have tried := eq_none_of_firstFound hfound via (h.exists_unit_iff.2 ⟨a, ha⟩)
      rw [viaUnit?, if_neg hvia, h.price?_eq_some.2 ha] at tried
      exact h.secondLeg?_ne_none second tried
    · -- the first leg is the inverse of a price, so the list that this price is in is tried
      have hlist := h.exists_list ha
      have tried := eq_none_of_firstFound hrest _ hlist
      rw [viaQuoted?, (h.lastNonZero?_eq_some hlist).2 (ha.nonZero hzero)] at tried
      obtain ⟨first, _, hsecond⟩ := bind_eq_ok.1 tried
      exact h.secondLeg?_ne_none second hsecond

lemma Holds.rate?_ne_none (h : t.Holds given) (linked : Linked given date base unit) :
    t.rate? base unit date ≠ .ok none := by
  intro hnone
  by_cases hne : base = unit
  · simp [rate?, hne] at hnone
  · obtain ⟨hleg, hchained⟩ := h.not_leg hne hnone
    rcases linked with heq | leg | ⟨via, first, second⟩
    · exact hne heq
    · exact hleg leg
    · -- two legs over the unit itself end with the first one
      by_cases hvia : via = unit
      · exact hleg (hvia ▸ first)
      · exact h.not_legs hchained hvia first second

/-! ### Divisions -/

lemma firstFound_ne_error {o : Overflow} (h : ∀ x ∈ xs, search x ≠ .error o) :
    firstFound search xs ≠ .error o := by
  induction xs with
  | nil => exact ne_error_of_eq_ok rfl o
  | cons x xs ih =>
    obtain ⟨hx, h⟩ := List.forall_mem_cons.1 h
    rw [firstFound]
    apply bind_ne_error hx
    intro found _
    cases found with
    | some s => exact ne_error_of_eq_ok rfl o
    | none => exact ih h

lemma exists_of_lastPrice? {p : Quote → Bool} {qs : List Quote} (h : lastPrice? p qs = some a) :
    ∃ q, p q = true ∧ q.price = a := by
  obtain ⟨q, hq, rfl⟩ := Option.map_eq_some_iff.1 h
  exact ⟨q, List.find?_some hq, rfl⟩

lemma div_ne_divisionByZero (h : b.isZero = false) : a.div b ≠ .error .divisionByZero := by
  intro he
  rw [Decimal.div, h, if_neg Bool.false_ne_true] at he
  split at he
  · cases he
  · dsimp only at he
    split at he <;> cases he

lemma mul_ne_divisionByZero : a.mul b ≠ .error .divisionByZero := by
  intro he
  unfold Decimal.mul at he
  extract_lets at he
  split at he
  · cases he
  · split at he
    · cases he
    · split at he <;> cases he

lemma secondLeg?_ne_divisionByZero : t.secondLeg? first via unit date ≠ .error .divisionByZero := by
  rw [secondLeg?]
  split
  · exact map_ne_error mul_ne_divisionByZero
  · split
    · split
      · exact ne_error_of_eq_ok rfl _
      · next hzero =>
        apply map_ne_error
        exact div_ne_divisionByZero (by simpa using hzero)
    · exact ne_error_of_eq_ok rfl _

lemma viaUnit?_ne_divisionByZero : t.viaUnit? base unit date via ≠ .error .divisionByZero := by
  rw [viaUnit?]
  split
  · exact ne_error_of_eq_ok rfl _
  · split
    · exact secondLeg?_ne_divisionByZero
    · exact ne_error_of_eq_ok rfl _

lemma viaQuoted?_ne_divisionByZero {list : String × List Quote} :
    t.viaQuoted? base unit date list ≠ .error .divisionByZero := by
  rw [viaQuoted?]
  split
  · next price hprice =>
    -- the search has passed over prices that are zero
    obtain ⟨q, hq, rfl⟩ := exists_of_lastPrice? hprice
    have hzero : q.price.isZero = false := by simpa using (Bool.and_eq_true_iff.1 hq).2
    apply bind_ne_error (div_ne_divisionByZero hzero)
    intro first _
    exact secondLeg?_ne_divisionByZero
  · exact ne_error_of_eq_ok rfl _

lemma chained?_ne_divisionByZero : t.chained? base unit date ≠ .error .divisionByZero := by
  apply bind_ne_error
  · apply firstFound_ne_error
    intro via _
    exact viaUnit?_ne_divisionByZero
  · intro found _
    cases found with
    | some s => exact ne_error_of_eq_ok rfl _
    | none =>
      apply firstFound_ne_error
      intro list _
      exact viaQuoted?_ne_divisionByZero

/-- A price is only divided by if it is not zero. -/
lemma rate?_ne_divisionByZero (t : PriceTable) (base unit : String) (date : Date) :
    t.rate? base unit date ≠ .error .divisionByZero := by
  rw [rate?]
  split
  · exact ne_error_of_eq_ok rfl _
  · split
    · exact ne_error_of_eq_ok rfl _
    · split
      · split
        · exact chained?_ne_divisionByZero
        · next hzero =>
          apply map_ne_error
          exact div_ne_divisionByZero (by simpa using hzero)
      · exact chained?_ne_divisionByZero

/-- The answer of the table as a source of rates. -/
lemma rates_eq (t : PriceTable) (source target : String) (date : Date) :
    t.rates date source target = match t.rate? source target date with
      | .ok (some r) => .ok r
      | .ok none     => .error (.error (.missing source target date))
      | .error o     => .error (.overflow o) := by
  rw [rates]
  cases t.rate? source target date with
  | error o => rfl
  | ok found => cases found <;> rfl

/-- Where the latest prices link two currencies, their rate is not missing: there is one, or it is
beyond all numbers. No number is ever divided by zero. -/
theorem rates_of_linked (h : t.Built given) (source target : String) (date : Date) :
    t.rates date source target ≠ .error (.overflow .divisionByZero) ∧
    (Linked given date source target →
      t.rates date source target ≠ .error (.error (.missing source target date)) ∧
      ((∃ r, t.rates date source target = .ok r) ∨
        ∃ o, t.rates date source target = .error (.overflow o))) := by
  rw [rates_eq]
  have noDivision := t.rate?_ne_divisionByZero source target date
  have found : Linked given date source target → t.rate? source target date ≠ .ok none :=
    h.holds.rate?_ne_none
  cases hrate : t.rate? source target date with
  | error o =>
    refine ⟨?_, fun _ => ⟨nofun, .inr ⟨o, rfl⟩⟩⟩
    rintro ⟨⟩
    exact noDivision hrate
  | ok rate? =>
    cases rate? with
    | some r => exact ⟨nofun, fun _ => ⟨nofun, .inl ⟨r, rfl⟩⟩⟩
    | none => exact ⟨nofun, fun linked => absurd hrate (found linked)⟩

/-- A price of the dollar, and a price in dollars. -/
def dollarLinks : List Quote :=
  [⟨.january30, "USD", .one, "CNY"⟩, ⟨.february1, "EUR", .two, "USD"⟩]

/-- Over the dollar the yuan has a rate in euros, though it is itself not priced, and nothing is
priced in euros. -/
theorem dollarLinks_link : (ofList dollarLinks).Built dollarLinks ∧
    Linked dollarLinks .february1 "CNY" "EUR" ∧
    (ofList dollarLinks).rates .february1 "CNY" "EUR"
      ≠ .error (.error (.missing "CNY" "EUR" .february1)) := by
  have dollar : LatestPrice dollarLinks .february1 "USD" "CNY" .one :=
    ⟨_, ⟨by decide, [], dollarLinks.drop 1, rfl, by decide, by decide⟩, rfl⟩
  have euro : LatestPrice dollarLinks .february1 "EUR" "USD" .two :=
    ⟨_, ⟨by decide, dollarLinks.take 1, [], rfl, by decide, by decide⟩, rfl⟩
  have linked : Linked dollarLinks .february1 "CNY" "EUR" :=
    .inr (.inr ⟨"USD", .inr ⟨_, dollar, rfl⟩, .inr ⟨_, euro, rfl⟩⟩)
  exact ⟨.ofList _, linked, ((rates_of_linked (.ofList _) _ _ _).2 linked).1⟩

end PriceTable

end Daybook
