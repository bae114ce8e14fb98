import Daybook.Proofs.Outcome
import Daybook.Proofs.Rates.PriceTable

/-!
# Rates from latest prices

A price table works out a rate from the price of one currency in the other, from the inverse of the
price the other way round, or from two legs over a third currency. `CurrentRate` says what the rate is
if each leg is taken from the latest price. A first leg that is inverted need not be: it is taken from
the latest price that is not zero (`OutdatedRate`). Apart from that, rates are current
(`rate?_current_or_outdated`).
-/

namespace Daybook

namespace PriceTable

variable {t : PriceTable} {given : List Quote} {date : Date} {base unit via currency : String}
  {a b c price first r : Decimal}

/-! ### Rates that follow from latest prices -/

/-- The price of the latest quote that is not zero. -/
def LatestNonZero (given : List Quote) (date : Date) (currency unit : String) (a : Decimal) : Prop :=
  Quote.IsLatestPrice (fun q => q.Prices currency unit date ∧ q.price.isZero = false) given a

/-- The rate of a first leg, from the latest price one way or the other. -/
inductive FirstLeg (given : List Quote) (date : Date) (base via : String) : Decimal → Prop where
  | quoted {price : Decimal} (h : LatestPrice given date base via price) :
      FirstLeg given date base via price
  | inverse {price first : Decimal} (h : LatestPrice given date via base price)
      (hprice : price.isZero = false) (hfirst : Decimal.one.div price = .ok first) :
      FirstLeg given date base via first

/-- The rate over two legs, from the rate of the first one and the latest price of the second one, or
else the latest price the other way round. -/
inductive SecondLeg (given : List Quote) (date : Date) (via unit : String) (first : Decimal) :
    Decimal → Prop where
  | quoted {price r : Decimal} (h : LatestPrice given date via unit price)
      (hr : first.mul price = .ok r) : SecondLeg given date via unit first r
  | inverse {price r : Decimal} (unquoted : ∀ a, ¬ LatestPrice given date via unit a)
      (h : LatestPrice given date unit via price) (hprice : price.isZero = false)
      (hr : first.div price = .ok r) : SecondLeg given date via unit first r

/-- Neither is there a price of one currency in the other, nor one the other way round that can be
inverted. -/
structure NotDirect (given : List Quote) (date : Date) (base unit : String) : Prop where
  unquoted : ∀ a, ¬ LatestPrice given date base unit a
  zero : ∀ a, LatestPrice given date unit base a → a.isZero = true

/-- The rate that follows from the latest prices: the price itself, or else the inverse of the price
the other way round, or else two legs over some currency. -/
inductive CurrentRate (given : List Quote) (date : Date) (base unit : String) : Decimal → Prop where
  | quoted {price : Decimal} (h : LatestPrice given date base unit price) :
      CurrentRate given date base unit price
  | inverse {price r : Decimal} (unquoted : ∀ a, ¬ LatestPrice given date base unit a)
      (h : LatestPrice given date unit base price) (hprice : price.isZero = false)
      (hr : Decimal.one.div price = .ok r) : CurrentRate given date base unit r
  | chained {first r : Decimal} (indirect : NotDirect given date base unit) (via : String)
      (hfirst : FirstLeg given date base via first) (hr : SecondLeg given date via unit first r) :
      CurrentRate given date base unit r

/-- A rate over a currency whose latest price is zero. Its first leg is the inverse of an earlier
price. -/
inductive OutdatedRate (given : List Quote) (date : Date) (base unit : String) : Decimal → Prop where
  | chained {latest price first r : Decimal} (indirect : NotDirect given date base unit) (via : String)
      (hlatest : LatestPrice given date via base latest) (hzero : latest.isZero = true)
      (h : LatestNonZero given date via base price) (hfirst : Decimal.one.div price = .ok first)
      (hr : SecondLeg given date via unit first r) : OutdatedRate given date base unit r

/-! ### Searching -/

lemma firstFound_eq_some {α : Type} {search : α → Except Overflow (Option Decimal)} {xs : List α}
    (h : firstFound search xs = .ok (some r)) : ∃ x ∈ xs, search x = .ok (some r) := by
  induction xs with
  | nil => simp [firstFound] at h
  | cons x xs ih =>
    rw [firstFound, bind_eq_ok] at h
    obtain ⟨found, hfound, h⟩ := h
    cases found with
    | some s =>
      obtain rfl : s = r := by simpa using h
      exact ⟨x, List.mem_cons_self, hfound⟩
    | none =>
      obtain ⟨y, hy, hsearch⟩ := ih h
      exact ⟨y, List.mem_cons_of_mem x hy, hsearch⟩

/-! ### Legs -/

lemma Holds.price?_eq_none (h : t.Holds given) :
    t.price? currency unit date = none ↔ ∀ a, ¬ LatestPrice given date currency unit a := by
  rw [Option.eq_none_iff_forall_ne_some]
  exact forall_congr' fun a => not_congr h.price?_eq_some

lemma Holds.secondLeg?_eq_some (h : t.Holds given) :
    t.secondLeg? first via unit date = .ok (some r) ↔ SecondLeg given date via unit first r := by
  rw [secondLeg?]
  constructor
  · intro hr
    split at hr
    · next price hprice =>
      obtain ⟨s, hs, hsr⟩ := map_eq_ok.1 hr
      cases hsr
      exact .quoted (h.price?_eq_some.1 hprice) hs
    · next hnone =>
      split at hr
      · next price hprice =>
        split at hr
        · cases hr
        · next hzero =>
          obtain ⟨s, hs, hsr⟩ := map_eq_ok.1 hr
          cases hsr
          exact .inverse (h.price?_eq_none.1 hnone) (h.price?_eq_some.1 hprice) (by simpa using hzero) hs
      · cases hr
  · intro hr
    cases hr with
    | quoted hprice hr =>
      rw [h.price?_eq_some.2 hprice]
      exact map_eq_ok.2 ⟨r, hr, rfl⟩
    | inverse unquoted hprice hzero hr =>
      rw [h.price?_eq_none.2 unquoted, h.price?_eq_some.2 hprice]
      simp only [hzero, Bool.false_eq_true, if_false]
      exact map_eq_ok.2 ⟨r, hr, rfl⟩

/-- The list of a currency that is quoted in another one tells its latest price that can be inverted. -/
lemma Holds.lastNonZero?_eq_some (h : t.Holds given) {list : String × List Quote} (hlist : list ∈ t.lists) :
    lastPrice? (fun q => q.date ≤ date && q.unit == base && !q.price.isZero) list.2 = some a ↔
      LatestNonZero given date list.1 base a := by
  rw [← quotesOf_of_mem h.nodup hlist]
  refine h.lastPrice?_eq_some fun q => ?_
  rw [Quote.Prices, Bool.and_eq_true, Bool.and_eq_true, decide_eq_true_eq, beq_iff_eq, Bool.not_eq_true',
    and_comm (a := q.date ≤ date), and_assoc, and_assoc, and_assoc]

/-- The currencies that a currency is quoted in, on or before a day. -/
lemma Holds.exists_unit_iff (h : t.Holds given) :
    via ∈ ((t.quotesOf base).filter fun q => q.date ≤ date).map (·.unit) ↔
      ∃ a, LatestPrice given date base via a := by
  simp only [List.mem_map, List.mem_filter, decide_eq_true_eq, (h.byDate base).perm.mem_iff]
  constructor
  · rintro ⟨q, ⟨⟨hq, hbase⟩, hdate⟩, hunit⟩
    exact Quote.exists_isLatestPrice ⟨q, hq, hbase, hunit, hdate⟩
  · rintro ⟨_, hprice⟩
    obtain ⟨q, hq, ⟨hbase, hunit, hdate⟩, _⟩ := hprice.exists_mem
    exact ⟨q, ⟨⟨hq, hbase⟩, hdate⟩, hunit⟩

/-- A currency with a price has a list. -/
lemma Holds.exists_list (h : t.Holds given) (hprice : LatestPrice given date currency unit a) :
    (currency, t.quotesOf currency) ∈ t.lists := by
  obtain ⟨q, hq, ⟨hcurrency, _⟩, _⟩ := hprice.exists_mem
  have hmem : q ∈ t.quotesOf currency := by
    rw [(h.byDate currency).perm.mem_iff, List.mem_filter]
    exact ⟨hq, decide_eq_true hcurrency⟩
  rw [← lookup_eq_some h.nodup]
  cases hlookup : t.lists.lookup currency with
  | some qs => rw [quotesOf, hlookup, Option.getD_some]
  | none => simp [quotesOf, hlookup] at hmem

/-! ### Latest prices that are not zero -/

/-- The latest price is the latest that is not zero, unless it is zero. -/
lemma LatestPrice.nonZero (h : LatestPrice given date currency unit a) (ha : a.isZero = false) :
    LatestNonZero given date currency unit a := by
  obtain ⟨q, ⟨hq, before, behind, hgiven, hbefore, hbehind⟩, rfl⟩ := h
  exact ⟨q, ⟨⟨hq, ha⟩, before, behind, hgiven, fun r hr hp => hbefore r hr hp.1,
    fun r hr hp => hbehind r hr hp.1⟩, rfl⟩

lemma LatestNonZero.isZero_eq (h : LatestNonZero given date currency unit a) : a.isZero = false := by
  obtain ⟨q, _, ⟨_, hzero⟩, rfl⟩ := h.exists_mem
  exact hzero

/-- If some price is not zero, there is a latest one, which is zero or that one. -/
lemma LatestNonZero.latest (h : LatestNonZero given date currency unit a) :
    LatestPrice given date currency unit a ∨
      ∃ b, LatestPrice given date currency unit b ∧ b.isZero = true := by
  obtain ⟨q, hmem, ⟨hq, _⟩, _⟩ := h.exists_mem
  obtain ⟨latest, hlatest⟩ : ∃ b, LatestPrice given date currency unit b :=
    Quote.exists_isLatestPrice ⟨q, hmem, hq⟩
  cases hzero : latest.isZero with
  | true => exact .inr ⟨_, hlatest, hzero⟩
  | false => exact .inl ((hlatest.nonZero hzero).unique h ▸ hlatest)

/-! ### Rates over a third currency -/

lemma Holds.viaUnit?_eq_some (h : t.Holds given) (hr : t.viaUnit? base unit date via = .ok (some r)) :
    ∃ first, FirstLeg given date base via first ∧ SecondLeg given date via unit first r := by
  rw [viaUnit?] at hr
  split at hr
  · cases hr
  · split at hr
    · next first hfirst =>
      exact ⟨first, .quoted (h.price?_eq_some.1 hfirst), h.secondLeg?_eq_some.1 hr⟩
    · cases hr

lemma Holds.viaQuoted?_eq_some (h : t.Holds given) {list : String × List Quote} (hlist : list ∈ t.lists)
    (hr : t.viaQuoted? base unit date list = .ok (some r)) : ∃ price first,
      LatestNonZero given date list.1 base price ∧ Decimal.one.div price = .ok first ∧
      SecondLeg given date list.1 unit first r := by
  rw [viaQuoted?] at hr
  split at hr
  · next price hprice =>
    obtain ⟨first, hfirst, hr⟩ := bind_eq_ok.1 hr
    exact ⟨price, first, (h.lastNonZero?_eq_some hlist).1 hprice, hfirst, h.secondLeg?_eq_some.1 hr⟩
  · cases hr

/-- A rate over a third currency is current, unless the first leg is the inverse of a price that is
followed by a zero. -/
lemma Holds.chained?_eq_some (h : t.Holds given) (indirect : NotDirect given date base unit)
    (hr : t.chained? base unit date = .ok (some r)) :
    CurrentRate given date base unit r ∨ OutdatedRate given date base unit r := by
  obtain ⟨found, hfound, hr⟩ := bind_eq_ok.1 hr
  cases found with
  | some s =>
    obtain rfl : s = r := by simpa using hr
    obtain ⟨via, _, hvia⟩ := firstFound_eq_some hfound
    obtain ⟨first, hfirst, hsecond⟩ := h.viaUnit?_eq_some hvia
    exact .inl (.chained indirect via hfirst hsecond)
  | none =>
    -- without a quoted first leg, the price that is inverted was the latest non-zero one
    obtain ⟨list, hlist, hvia⟩ := firstFound_eq_some hr
    obtain ⟨price, first, hprice, hfirst, hsecond⟩ := h.viaQuoted?_eq_some hlist hvia
    rcases hprice.latest with hlatest | ⟨latest, hlatest, hzero⟩
    · exact .inl (.chained indirect list.1 (.inverse hlatest hprice.isZero_eq hfirst) hsecond)
    · exact .inr (.chained indirect list.1 hlatest hzero hprice hfirst hsecond)

/-! ### All rates -/

/-- A rate between two currencies follows from the latest prices, or it goes over a currency whose
latest price is zero, on an earlier one. -/
theorem rate?_current_or_outdated (h : t.Built given) (hne : base ≠ unit)
    (hr : t.rate? base unit date = .ok (some r)) :
    CurrentRate given date base unit r ∨ OutdatedRate given date base unit r := by
  have holds := h.holds
  rw [rate?, if_neg hne] at hr
  split at hr
  · next price hprice =>
    obtain rfl : price = r := by simpa using hr
    exact .inl (.quoted (holds.price?_eq_some.1 hprice))
  · next hunquoted =>
    have unquoted := holds.price?_eq_none.1 hunquoted
    split at hr
    · next price hprice =>
      have back := holds.price?_eq_some.1 hprice
      split at hr
      · next hzero =>
        -- a zero cannot be inverted, so a third currency is tried in this case as well
        refine holds.chained?_eq_some ⟨unquoted, fun a ha => ?_⟩ hr
        rw [← holds.price?_eq_some, hprice, Option.some.injEq] at ha
        exact ha ▸ hzero
      · next hzero =>
        obtain ⟨s, hs, hsr⟩ := map_eq_ok.1 hr
        obtain rfl := Option.some.inj hsr
        exact .inl (.inverse unquoted back (by simpa using hzero) hs)
    · next hback =>
      exact holds.chained?_eq_some ⟨unquoted, fun a ha => absurd ha (holds.price?_eq_none.1 hback a)⟩ hr

/-- A price in dollars, and a price of the dollar. -/
def euroPrices : List Quote :=
  [⟨.january30, "EUR", .two, "USD"⟩, ⟨.february1, "USD", .two, "CNY"⟩, ⟨.january30, "USD", .one, "CNY"⟩]

/-- The rate over the dollar is current. -/
theorem euroPrices_current : (ofList euroPrices).Built euroPrices ∧ "EUR" ≠ "CNY" ∧
    (ofList euroPrices).rate? "EUR" "CNY" .february1 = .ok (some .four) ∧
    CurrentRate euroPrices .february1 "EUR" "CNY" .four := by
  have hrate : (ofList euroPrices).rate? "EUR" "CNY" .february1 = .ok (some .four) := by
    rw [show euroPrices = [] ++ euroPrices from rfl, ofList_append]
    decide +kernel
  refine ⟨.ofList _, by decide, hrate, ?_⟩
  rcases rate?_current_or_outdated (.ofList euroPrices) (by decide) hrate with current | outdated
  · exact current
  · -- none of the prices is zero
    obtain ⟨_, via, hlatest, hzero, _⟩ := outdated
    obtain ⟨q, hq, _, rfl⟩ := hlatest.exists_mem
    exact absurd hzero ((show ∀ q ∈ euroPrices, ¬ q.price.isZero = true by decide) q hq)

/-! ### A price that falls to zero -/

/-- A dollar is worth a yuan, then nothing; in euros it is worth two. -/
def fallenDollar : List Quote :=
  [⟨.january30, "USD", .one, "CNY"⟩, ⟨.february1, "USD", .zero, "CNY"⟩, ⟨.january30, "USD", .two, "EUR"⟩]

lemma one_div_one : Decimal.one.div .one = .ok .one := by
  have carried : (LongDivision.start 1 1 0).carry 1 = LongDivision.start 1 1 0 := by
    rw [LongDivision.carry, dif_pos (.inl rfl)]
  unfold Decimal.div
  simp only [show Decimal.one.isZero = false from rfl, show Decimal.one.mantissa.natAbs = 1 from rfl,
    show ((Decimal.one.scale : ℤ) - Decimal.one.scale) = 0 from rfl, carried]
  rfl

/-- The yuan still has a rate in euros, over what the dollar was worth before. No rate follows from
the latest prices. -/
theorem fallenDollar_outdated : (ofList fallenDollar).Built fallenDollar ∧ "CNY" ≠ "EUR" ∧
    (ofList fallenDollar).rate? "CNY" "EUR" .february1 = .ok (some .two) ∧
    ∀ r, ¬ CurrentRate fallenDollar .february1 "CNY" "EUR" r := by
  have dollars : ∀ q ∈ fallenDollar, q.currency = "USD" := by decide
  have unquoted : ∀ {currency unit a}, currency ≠ "USD" →
      ¬ LatestPrice fallenDollar .february1 currency unit a := by
    intro currency unit a hne h
    obtain ⟨q, hq, ⟨hcurrency, _⟩, _⟩ := h.exists_mem
    exact hne (hcurrency.symm.trans (dollars q hq))
  have fallen : LatestPrice fallenDollar .february1 "USD" "CNY" .zero :=
    ⟨_, ⟨by decide, fallenDollar.take 1, fallenDollar.drop 2, rfl, by decide, by decide⟩, rfl⟩
  refine ⟨.ofList _, by decide, ?_, ?_⟩
  · -- nothing is quoted in the yuan, so the first leg can only be inverted; the zero is passed over
    rw [show fallenDollar = [] ++ fallenDollar from rfl, ofList_append]
    set t := fallenDollar.foldl insert (ofList [])
    have hdirect : t.price? "CNY" "EUR" .february1 = none := by decide +kernel
    have hback : t.price? "EUR" "CNY" .february1 = none := by decide +kernel
    have hunits : t.quotesOf "CNY" = [] := by decide +kernel
    have hlists : t.lists = [("USD", t.quotesOf "USD")] := by decide +kernel
    have hdollar : lastPrice? (fun q => q.date ≤ .february1 && q.unit == "CNY" && !q.price.isZero)
        (t.quotesOf "USD") = some .one := by decide +kernel
    have hsecond : t.secondLeg? .one "USD" "EUR" .february1 = .ok (some .two) := by decide +kernel
    rw [rate?, if_neg (by decide), hdirect, hback]
    simp only [chained?, hunits, hlists, firstFound, viaQuoted?, hdollar, one_div_one, hsecond,
      List.filter_nil, List.map_nil, ok_bind, pure_eq_ok]
  · rintro r (h | ⟨_, h, _⟩ | ⟨_, via, hfirst, _⟩)
    · exact unquoted (by decide) h
    · exact unquoted (by decide) h
    · cases hfirst with
      | quoted h => exact unquoted (by decide) h
      | inverse h hprice =>
        by_cases hvia : via = "USD"
        · rw [hvia] at h
          rw [h.unique fallen] at hprice
          cases hprice
        · exact unquoted hvia h

end PriceTable

end Daybook
