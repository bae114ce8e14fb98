import Daybook.Proofs.Decimal.Value
import Daybook.Proofs.Rates.ByDate

/-!
# What a price table holds

A table that was made of some quotes, in whatever steps (`PriceTable.Built`), has a list for each
currency with the quotes of that currency by date (`PriceTable.Holds`). So it does not matter which
quotes are there at the beginning and which are added later (`PriceTable.foldl_insert_ofList`).

Nothing is assumed about the order in which a table keeps its currencies: they may change places at
any time.
-/

namespace Daybook

/-- The quote is a price of a currency in a unit, on or before a day. -/
def Quote.Prices (currency unit : String) (date : Date) (q : Quote) : Prop :=
  q.currency = currency ∧ q.unit = unit ∧ q.date ≤ date

instance (currency unit : String) (date : Date) : DecidablePred (Quote.Prices currency unit date) :=
  fun _ => inferInstanceAs (Decidable (_ ∧ _ ∧ _))

namespace PriceTable

variable {t t' : PriceTable} {given more : List Quote} {q : Quote} {base unit currency : String}
  {date : Date} {a b : Decimal} {lists lists' : List (String × List Quote)}
  {change : List Quote → List Quote}

/-! ### Lists by currency -/

lemma lookup_cons (list : String × List Quote) (c : String) :
    (list :: lists).lookup c = if c = list.1 then some list.2 else lists.lookup c := by
  rw [List.lookup_cons]
  split
  · next h => rw [if_pos (eq_of_beq h)]
  · next h => rw [if_neg (ne_of_beq_false h)]

lemma lookup_changeList (c : String) : (changeList currency change lists).lookup c
    = if c = currency then some (change ((lists.lookup currency).getD [])) else lists.lookup c := by
  induction lists with
  | nil => rw [changeList, lookup_cons, List.lookup_nil, List.lookup_nil, Option.getD_none]
  | cons list lists ih =>
    rw [changeList]
    by_cases hlist : list.1 = currency
    · rw [if_pos hlist, lookup_cons, lookup_cons, lookup_cons, if_pos hlist.symm, Option.getD_some, hlist]
      split <;> rfl
    · rw [if_neg hlist, lookup_cons, ih, lookup_cons, lookup_cons, if_neg (Ne.symm hlist)]
      split
      · next hc => rw [if_neg (hc ▸ hlist)]
      · rfl

lemma quotesOf_insert (t : PriceTable) (q : Quote) (c : String) : (t.insert q).quotesOf c
    = if c = q.currency then insertQuote q (t.quotesOf c) else t.quotesOf c := by
  rw [quotesOf, insert, lookup_changeList]
  split
  · next hc => rw [hc, Option.getD_some, quotesOf]
  · rfl

lemma mem_keys_changeList {c : String} :
    c ∈ (changeList currency change lists).map (·.1) ↔ c = currency ∨ c ∈ lists.map (·.1) := by
  induction lists with
  | nil => simp [changeList]
  | cons list lists ih =>
    rw [changeList]
    split
    · next hlist => simp [hlist]
    · rw [List.map_cons, List.mem_cons, ih, List.map_cons, List.mem_cons, or_left_comm]

lemma nodup_changeList (h : (lists.map (·.1)).Nodup) :
    ((changeList currency change lists).map (·.1)).Nodup := by
  induction lists with
  | nil => exact List.nodup_singleton currency
  | cons list lists ih =>
    rw [List.map_cons, List.nodup_cons] at h
    rw [changeList]
    split
    · next hlist =>
      rw [List.map_cons, List.nodup_cons, ← hlist]
      exact h
    · next hlist =>
      rw [List.map_cons, List.nodup_cons, mem_keys_changeList]
      exact ⟨not_or.2 ⟨hlist, h.1⟩, ih h.2⟩

/-- Where the currencies differ, looking one up is finding its list. -/
lemma lookup_eq_some (h : (lists.map (·.1)).Nodup) {qs : List Quote} :
    lists.lookup currency = some qs ↔ (currency, qs) ∈ lists := by
  rw [List.lookup_eq_some_iff]
  constructor
  · rintro ⟨before, behind, rfl, _⟩
    simp
  · intro hmem
    obtain ⟨before, behind, rfl⟩ := List.append_of_mem hmem
    refine ⟨before, behind, rfl, fun list hlist => bne_iff_ne.2 fun heq => ?_⟩
    rw [List.map_append, List.map_cons] at h
    exact (List.nodup_append.1 h).2.2 _ (List.mem_map_of_mem hlist) _ List.mem_cons_self heq.symm

lemma quotesOf_of_mem (h : (t.lists.map (·.1)).Nodup) {list : String × List Quote}
    (hlist : list ∈ t.lists) : t.quotesOf list.1 = list.2 := by
  rw [quotesOf, (lookup_eq_some h).2 hlist, Option.getD_some]

lemma quotesOf_of_perm (h : (t.lists.map (·.1)).Nodup) (perm : t.lists.Perm t'.lists) (c : String) :
    t'.quotesOf c = t.quotesOf c := by
  have h' := (perm.map (·.1)).nodup_iff.1 h
  have same : t'.lists.lookup c = t.lists.lookup c := by
    ext qs
    rw [lookup_eq_some h, lookup_eq_some h', perm.mem_iff]
  rw [quotesOf, same, quotesOf]

/-! ### Tables of one list of quotes -/

/-- Appending to a list and sorting it is inserting into the sorted list. -/
lemma map_sortByDate_changeList :
    (changeList q.currency (· ++ [q]) lists).map (fun list => (list.1, sortByDate list.2))
      = changeList q.currency (insertQuote q) (lists.map fun list => (list.1, sortByDate list.2)) := by
  induction lists with
  | nil =>
    rw [changeList, List.map_singleton, sortByDate_concat, sortByDate, List.mergeSort_nil]
    rfl
  | cons list lists ih =>
    rw [changeList, List.map_cons, changeList]
    split
    · rw [List.map_cons, sortByDate_concat]
    · rw [List.map_cons, ih]

/-- A quote more in the list is a quote added to the table. -/
lemma ofList_concat (given : List Quote) (q : Quote) :
    ofList (given ++ [q]) = (ofList given).insert q := by
  rw [ofList, collect, List.foldl_append, List.foldl_cons, List.foldl_nil, map_sortByDate_changeList]
  rfl

/-- It does not matter which quotes are there from the beginning. -/
lemma ofList_append (given more : List Quote) :
    ofList (given ++ more) = more.foldl insert (ofList given) := by
  induction more generalizing given with
  | nil => rw [List.append_nil, List.foldl_nil]
  | cons q more ih => rw [List.foldl_cons, ← ofList_concat, ← ih, List.append_assoc, List.singleton_append]

/-! ### Tables built in steps -/

/-- The table has been made of the given quotes: of some of them at once, then of one after the other.
In between the currencies may have changed places. -/
inductive Built : PriceTable → List Quote → Prop where
  | ofList (given : List Quote) : Built (ofList given) given
  | insert {t : PriceTable} {given : List Quote} (h : Built t given) (q : Quote) :
      Built (t.insert q) (given ++ [q])
  | rearrange {t t' : PriceTable} {given : List Quote} (h : Built t given)
      (perm : t.lists.Perm t'.lists) : Built t' given

/-- The table has a list for each currency, with the given quotes of that currency by date. -/
structure Holds (t : PriceTable) (given : List Quote) : Prop where
  nodup : (t.lists.map (·.1)).Nodup
  byDate : ∀ c, ByDate (given.filter (·.currency = c)) (t.quotesOf c)

lemma holds_empty : empty.Holds [] := ⟨List.nodup_nil, fun _ => .nil⟩

lemma Holds.insert (h : t.Holds given) (q : Quote) : (t.insert q).Holds (given ++ [q]) := by
  refine ⟨nodup_changeList h.nodup, fun c => ?_⟩
  rw [quotesOf_insert, List.filter_append]
  by_cases hc : c = q.currency
  · rw [if_pos hc, List.filter_cons_of_pos (by simpa using hc.symm), List.filter_nil]
    exact (h.byDate c).insertQuote q
  · rw [if_neg hc, List.filter_cons_of_neg (by simpa using Ne.symm hc), List.filter_nil, List.append_nil]
    exact h.byDate c

lemma Holds.rearrange (h : t.Holds given) (perm : t.lists.Perm t'.lists) : t'.Holds given := by
  refine ⟨(perm.map (·.1)).nodup_iff.1 h.nodup, fun c => ?_⟩
  rw [quotesOf_of_perm h.nodup perm]
  exact h.byDate c

lemma holds_ofList (given : List Quote) : (ofList given).Holds given := by
  induction given using List.reverseRecOn with
  | nil => exact holds_empty
  | append_singleton given q ih =>
    rw [ofList_concat]
    exact ih.insert q

/-- However a table was built, it holds what it was built of. -/
theorem Built.holds (h : t.Built given) : t.Holds given := by
  induction h with
  | ofList given => exact holds_ofList given
  | insert _ q ih => exact ih.insert q
  | rearrange _ perm ih => exact ih.rearrange perm

/-! ### Size -/

lemma size_insert (t : PriceTable) (q : Quote) : (t.insert q).size = t.size + 1 := by
  obtain ⟨lists⟩ := t
  simp only [insert, size]
  induction lists with
  | nil => simp [changeList, length_insertQuote]
  | cons list lists ih =>
    rw [changeList]
    split
    · simp only [List.foldr_cons, length_insertQuote]
      omega
    · simp only [List.foldr_cons, ih]
      omega

lemma size_ofList (given : List Quote) : (ofList given).size = given.length := by
  induction given using List.reverseRecOn with
  | nil => rfl
  | append_singleton given q ih =>
    rw [ofList_concat, size_insert, ih, List.length_append, List.length_singleton]

/-! ### Latest quotes -/

/-- The price of the latest of the given quotes of a currency in a unit, on or before a day. -/
def LatestPrice (given : List Quote) (date : Date) (currency unit : String) (a : Decimal) : Prop :=
  Quote.IsLatestPrice (Quote.Prices currency unit date) given a

/-- What is found from the end of the list of a currency is the latest of its quotes. -/
lemma Holds.lastPrice?_eq_some (h : t.Holds given) {p : Quote → Bool} {P : Quote → Prop}
    (hp : ∀ q, q.currency = currency ∧ p q = true ↔ P q) :
    lastPrice? p (t.quotesOf currency) = some a ↔ Quote.IsLatestPrice P given a := by
  rw [(h.byDate currency).lastPrice?_eq_some]
  simp only [Quote.IsLatestPrice, Quote.isLatest_filter, decide_eq_true_eq, hp]

/-- The table answers with latest prices. -/
lemma Holds.price?_eq_some (h : t.Holds given) :
    t.price? currency unit date = some a ↔ LatestPrice given date currency unit a := by
  refine h.lastPrice?_eq_some fun q => ?_
  rw [Quote.Prices, Bool.and_eq_true, decide_eq_true_eq, beq_iff_eq, and_comm (a := q.date ≤ date)]

/-- A table with all quotes from the beginning, and one to which some of them are added later, are the
same. It has the quotes of each currency in the order of their dates, those of one day in the order in
which they were given. Where there is a quote of a currency in another one, the rate is the price of
the latest, the last one given of its day. -/
theorem foldl_insert_ofList (given more : List Quote) :
    more.foldl insert (ofList given) = ofList (given ++ more) ∧
    (ofList (given ++ more)).size = (given ++ more).length ∧
    (∀ currency, ((ofList (given ++ more)).quotesOf currency).Perm
        ((given ++ more).filter (·.currency = currency)) ∧
      ByDate ((given ++ more).filter (·.currency = currency))
        ((ofList (given ++ more)).quotesOf currency)) ∧
    ∀ base unit date, base ≠ unit → (∃ q ∈ given ++ more, q.Prices base unit date) →
      ∃ q, Quote.IsLatest (Quote.Prices base unit date) (given ++ more) q ∧
        (ofList (given ++ more)).rate? base unit date = .ok (some q.price) := by
  have holds := holds_ofList (given ++ more)
  refine ⟨(ofList_append given more).symm, size_ofList _, ?_, ?_⟩
  · intro c
    exact ⟨(holds.byDate c).perm, holds.byDate c⟩
  · -- the direct price comes before all other ways to a rate
    intro base unit date hne hquoted
    obtain ⟨_, q, hq, rfl⟩ := Quote.exists_isLatestPrice hquoted
    refine ⟨q, hq, ?_⟩
    rw [rate?, if_neg hne, holds.price?_eq_some.2 ⟨q, hq, rfl⟩]

/-- Prices of the dollar: one of February, then two of one day in January. -/
def dollarPrices : List Quote :=
  [⟨.february1, "USD", .two, "CNY"⟩, ⟨.january30, "USD", .one, "CNY"⟩, ⟨.january30, "USD", .tenth, "CNY"⟩]

/-- The prices of January are inserted before that of February. The last one is the rate of that day. -/
theorem dollarPrices_inserted : "USD" ≠ "CNY" ∧
    (∃ q ∈ dollarPrices, q.Prices "USD" "CNY" .january30) ∧
    (dollarPrices.tail.foldl insert (ofList (dollarPrices.take 1))).rate? "USD" "CNY" .january30
      = .ok (some .tenth) := by
  obtain ⟨htable, _, _, hrate⟩ := foldl_insert_ofList (dollarPrices.take 1) dollarPrices.tail
  have quoted : ∃ q ∈ dollarPrices, q.Prices "USD" "CNY" .january30 := by decide
  refine ⟨by decide, quoted, ?_⟩
  obtain ⟨q, hq, hrate⟩ := hrate "USD" "CNY" .january30 (by decide) quoted
  have last : Quote.IsLatest (Quote.Prices "USD" "CNY" .january30) dollarPrices
      ⟨.january30, "USD", .tenth, "CNY"⟩ :=
    ⟨by decide, dollarPrices.take 2, [], rfl, by decide, by decide⟩
  rw [htable, hrate, hq.unique last]

end PriceTable

end Daybook
