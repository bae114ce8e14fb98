import Daybook.Proofs.Calendar.Day
import Daybook.Rates.PriceTable

/-!
# Quotes by date

A list of quotes is `ByDate` if it has the given quotes in the order of their dates, those of one day
in the order in which they were given. There is only one such list (`ByDate.unique`). Sorting makes it
(`byDate_sortByDate`), and a further quote that is inserted where binary search ends keeps it
(`ByDate.insertQuote`), so inserting after sorting is sorting all at once (`sortByDate_concat`).

The last quote in such a list that a condition holds of is the latest one given (`Quote.IsLatest`).
-/

namespace Daybook

/-! ### Binary search -/

section Search

variable {α : Type} {p : α → Bool} {xs ys : List α} {low high n : ℕ}

/-- The search ends where the predicate stops holding, if that is between its bounds. -/
lemma searchEnd_eq (before : ∀ i (h : i < xs.length), i < n → p xs[i] = true)
    (behind : ∀ i (h : i < xs.length), n ≤ i → ¬ p xs[i] = true)
    (hlow : low ≤ n) (hhigh : n ≤ high) (hlength : high ≤ xs.length) : searchEnd p xs low high = n := by
  fun_induction searchEnd p xs low high with
  | case1 low high hlt middle hp ih =>
    -- the middle is before the end, so the end is in the upper half
    have hmiddle : middle < xs.length := by omega
    rw [List.getElem?_eq_getElem hmiddle, Option.any_some] at hp
    have : middle < n := by
      by_contra hn
      exact behind middle hmiddle (by omega) hp
    exact ih (by omega) hhigh hlength
  | case2 low high hlt middle hp ih =>
    have hmiddle : middle < xs.length := by omega
    rw [List.getElem?_eq_getElem hmiddle, Option.any_some] at hp
    have : n ≤ middle := by
      by_contra hn
      exact hp (before middle hmiddle (by omega))
    exact ih hlow this (by omega)
  | case3 low high hle => omega

lemma searchEnd_le (h : low ≤ high) : searchEnd p xs low high ≤ high := by
  fun_induction searchEnd p xs low high with
  | case1 low high hlt middle hp ih => exact ih (by omega)
  | case2 low high hlt middle hp ih => exact (ih (by omega)).trans (by omega)
  | case3 low high hle => exact h

lemma partitionPoint_le : partitionPoint p xs ≤ xs.length := searchEnd_le (Nat.zero_le _)

/-- The members that the predicate holds of are counted, if they come first. -/
lemma partitionPoint_append (hxs : ∀ x ∈ xs, p x = true) (hys : ∀ y ∈ ys, ¬ p y = true) :
    partitionPoint p (xs ++ ys) = xs.length := by
  refine searchEnd_eq ?_ ?_ (Nat.zero_le _) (by simp) le_rfl
  · intro i _ hi
    rw [List.getElem_append_left hi]
    exact hxs _ (List.getElem_mem hi)
  · intro i _ hi
    rw [List.getElem_append_right hi]
    exact hys _ (List.getElem_mem _)

end Search

/-! ### The order of dates -/

/-- The given quotes in the order of their dates; those of one day in the order in which they were
given. -/
structure ByDate (given qs : List Quote) : Prop where
  sorted : qs.Pairwise fun q r => q.date ≤ r.date
  sameDay : ∀ d, qs.filter (·.date = d) = given.filter (·.date = d)

variable {given qs qs' : List Quote} {q r : Quote} {p : Quote → Bool} {a b : Decimal}

namespace ByDate

lemma nil : ByDate [] [] := ⟨.nil, fun _ => rfl⟩

lemma perm (h : ByDate given qs) : qs.Perm given := by
  rw [List.perm_iff_count]
  intro q
  have sameCount : ∀ qs : List Quote, (qs.filter (·.date = q.date)).count q = qs.count q :=
    fun qs => List.count_filter (by simp)
  rw [← sameCount, h.sameDay, sameCount]

/-- The order leaves no choice. -/
lemma unique (h : ByDate given qs) (h' : ByDate given qs') : qs = qs' := by
  have mem_of_mem : ∀ {xs ys : List Quote},
      (∀ d, xs.filter (·.date = d) = ys.filter (·.date = d)) → ∀ x ∈ xs, x ∈ ys := by
    intro xs ys same x hx
    have hmem : x ∈ xs.filter (·.date = x.date) := List.mem_filter.2 ⟨hx, by simp⟩
    rw [same] at hmem
    exact List.mem_of_mem_filter hmem
  have same : ∀ d, qs.filter (·.date = d) = qs'.filter (·.date = d) :=
    fun d => (h.sameDay d).trans (h'.sameDay d).symm
  have sorted := h.sorted
  have sorted' := h'.sorted
  clear h h'
  induction qs generalizing qs' with
  | nil => exact (List.eq_nil_iff_forall_not_mem.2 fun x hx => by
      simpa using mem_of_mem (fun d => (same d).symm) x hx).symm
  | cons q qs ih =>
    cases qs' with
    | nil => simpa using mem_of_mem same q List.mem_cons_self
    | cons r rs =>
      obtain ⟨hq, sortedRest⟩ := List.pairwise_cons.1 sorted
      obtain ⟨hr, sortedRest'⟩ := List.pairwise_cons.1 sorted'
      -- both lists begin with the earliest date, and with the first quote of that day
      have hdate : q.date = r.date := by
        apply Date.le_antisymm
        · rcases List.mem_cons.1 (mem_of_mem (fun d => (same d).symm) r List.mem_cons_self) with rfl | hmem
          · exact Date.le_refl _
          · exact hq r hmem
        · rcases List.mem_cons.1 (mem_of_mem same q List.mem_cons_self) with rfl | hmem
          · exact Date.le_refl _
          · exact hr q hmem
      have first := same q.date
      rw [List.filter_cons_of_pos (by simp), List.filter_cons_of_pos (by simp [hdate]),
        List.cons.injEq] at first
      obtain ⟨rfl, rest⟩ := first
      congr 1
      refine ih (fun d => ?_) sortedRest sortedRest'
      by_cases hd : q.date = d
      · exact hd ▸ rest
      · have := same d
        rwa [List.filter_cons_of_neg (by simpa using hd),
          List.filter_cons_of_neg (by simpa using hd)] at this

end ByDate

/-! ### Sorting -/

lemma byDate_sortByDate (given : List Quote) : ByDate given (PriceTable.sortByDate given) := by
  have trans : ∀ q r s : Quote, decide (q.date ≤ r.date) = true → decide (r.date ≤ s.date) = true →
      decide (q.date ≤ s.date) = true := by
    simpa using fun q r s : Quote => Date.le_trans (a := q.date) (b := r.date) (c := s.date)
  have total : ∀ q r : Quote, (decide (q.date ≤ r.date) || decide (r.date ≤ q.date)) = true := by
    simpa using fun q r : Quote => Date.le_total q.date r.date
  refine ⟨(List.pairwise_mergeSort trans total given).imp of_decide_eq_true, fun d => ?_⟩
  -- the quotes of one day are in order already, so the sort keeps them as they are
  have ordered : (given.filter (·.date = d)).Pairwise fun q r => decide (q.date ≤ r.date) = true := by
    refine List.pairwise_of_forall_mem_list fun q hq r hr => decide_eq_true ?_
    rw [of_decide_eq_true (List.mem_filter.1 hq).2, of_decide_eq_true (List.mem_filter.1 hr).2]
    exact Date.le_refl d
  have kept := (List.sublist_mergeSort trans total ordered List.filter_sublist).filter (·.date = d)
  rw [List.filter_filter, List.filter_congr fun q _ => Bool.and_self _] at kept
  exact (kept.eq_of_length ((List.mergeSort_perm given _).filter _).length_eq.symm).symm

/-! ### Inserting -/

namespace PriceTable

/-- A quote goes behind those of its day and before, if they come first. -/
lemma insertQuote_append {early late : List Quote} (hearly : ∀ r ∈ early, r.date ≤ q.date)
    (hlate : ∀ r ∈ late, ¬ r.date ≤ q.date) : insertQuote q (early ++ late) = early ++ q :: late := by
  have insertIdx_append : ∀ xs : List Quote, (xs ++ late).insertIdx xs.length q = xs ++ q :: late := by
    intro xs
    induction xs with
    | nil => rfl
    | cons x xs ih =>
      rw [List.cons_append, List.length_cons, List.insertIdx_succ_cons, ih, List.cons_append]
  rw [insertQuote, partitionPoint_append (by simpa using hearly) (by simpa using hlate),
    insertIdx_append]

lemma length_insertQuote (q : Quote) (qs : List Quote) :
    (insertQuote q qs).length = qs.length + 1 :=
  List.length_insertIdx_of_le_length partitionPoint_le q

end PriceTable

/-- In the order of dates, what is not after a day comes first. -/
lemma exists_split_of_sorted (sorted : qs.Pairwise fun q r => q.date ≤ r.date) (d : Date) :
    ∃ early late, qs = early ++ late ∧ (∀ r ∈ early, r.date ≤ d) ∧ ∀ r ∈ late, ¬ r.date ≤ d := by
  induction qs with
  | nil => exact ⟨[], [], rfl, by simp, by simp⟩
  | cons q qs ih =>
    obtain ⟨hq, sorted⟩ := List.pairwise_cons.1 sorted
    by_cases hd : q.date ≤ d
    · obtain ⟨early, late, rfl, hearly, hlate⟩ := ih sorted
      exact ⟨q :: early, late, rfl, List.forall_mem_cons.2 ⟨hd, hearly⟩, hlate⟩
    · refine ⟨[], q :: qs, rfl, by simp, List.forall_mem_cons.2 ⟨hd, fun r hr hle => hd ?_⟩⟩
      exact Date.le_trans (hq r hr) hle

lemma ByDate.insertQuote (h : ByDate given qs) (q : Quote) :
    ByDate (given ++ [q]) (PriceTable.insertQuote q qs) := by
  obtain ⟨early, late, rfl, hearly, hlate⟩ := exists_split_of_sorted h.sorted q.date
  rw [PriceTable.insertQuote_append hearly hlate]
  obtain ⟨sortedEarly, sortedLate, hcross⟩ := List.pairwise_append.1 h.sorted
  have later : ∀ r ∈ late, q.date < r.date := fun r hr => Date.not_le.1 (hlate r hr)
  constructor
  · refine List.pairwise_append.2 ⟨sortedEarly,
      List.pairwise_cons.2 ⟨fun r hr => Date.le_of_lt (later r hr), sortedLate⟩, fun r hr s hs => ?_⟩
    rcases List.mem_cons.1 hs with rfl | hs
    · exact hearly r hr
    · exact hcross r hr s hs
  · intro d
    rw [List.filter_append, List.filter_append, ← h.sameDay, List.filter_append]
    by_cases hd : q.date = d
    · -- nothing of that day comes later
      have none : late.filter (·.date = d) = [] := List.filter_eq_nil_iff.2 fun r hr heq =>
        Date.ne_of_lt (later r hr) (hd.trans (of_decide_eq_true heq).symm)
      rw [List.filter_cons_of_pos (by simpa using hd), none, List.append_nil,
        List.filter_cons_of_pos (by simpa using hd), List.filter_nil]
    · rw [List.filter_cons_of_neg (by simpa using hd), List.filter_cons_of_neg (by simpa using hd),
        List.filter_nil, List.append_nil]

/-- Sorting and then inserting is the same as sorting with one more quote at the end. -/
lemma sortByDate_concat (given : List Quote) (q : Quote) : PriceTable.sortByDate (given ++ [q])
    = PriceTable.insertQuote q (PriceTable.sortByDate given) :=
  (byDate_sortByDate _).unique ((byDate_sortByDate given).insertQuote q)

/-! ### Latest quotes -/

/-- The latest of the given quotes that a condition holds of; if there are several of its day, the
last one given. -/
def Quote.IsLatest (p : Quote → Prop) (given : List Quote) (q : Quote) : Prop :=
  p q ∧ ∃ before behind, given = before ++ q :: behind ∧
    (∀ r ∈ before, p r → r.date ≤ q.date) ∧ ∀ r ∈ behind, p r → r.date < q.date

lemma Quote.IsLatest.unique {p : Quote → Prop} (h : IsLatest p given q) (h' : IsLatest p given r) :
    q = r := by
  obtain ⟨hq, before, behind, rfl, hbefore, hbehind⟩ := h
  obtain ⟨hr, before', behind', heq, hbefore', hbehind'⟩ := h'
  -- the one that was given later is not earlier, and the other one is not later than that
  rcases List.append_eq_append_iff.1 heq with ⟨mid, rfl, hmid⟩ | ⟨mid, rfl, hmid⟩
  · cases mid with
    | nil => exact (List.cons.inj hmid).1
    | cons s mid =>
      obtain ⟨rfl, rfl⟩ := List.cons.inj hmid
      exact absurd (hbefore' q (by simp) hq) (Date.not_le.2 (hbehind r (by simp) hr))
  · cases mid with
    | nil => exact (List.cons.inj hmid).1.symm
    | cons s mid =>
      obtain ⟨rfl, rfl⟩ := List.cons.inj hmid
      exact absurd (hbefore r (by simp) hr) (Date.not_le.2 (hbehind' q (by simp) hq))

/-- The price of the latest of the given quotes that a condition holds of. -/
def Quote.IsLatestPrice (p : Quote → Prop) (given : List Quote) (a : Decimal) : Prop :=
  ∃ q, IsLatest p given q ∧ q.price = a

lemma Quote.IsLatestPrice.unique {p : Quote → Prop} (h : IsLatestPrice p given a)
    (h' : IsLatestPrice p given b) : a = b := by
  obtain ⟨q, hq, rfl⟩ := h
  obtain ⟨r, hr, rfl⟩ := h'
  rw [hq.unique hr]

lemma Quote.IsLatestPrice.exists_mem {p : Quote → Prop} (h : IsLatestPrice p given a) :
    ∃ q ∈ given, p q ∧ q.price = a := by
  obtain ⟨q, ⟨hq, before, behind, rfl, _⟩, ha⟩ := h
  exact ⟨q, by simp, hq, ha⟩

/-- The latest among the quotes with a property. -/
lemma Quote.isLatest_filter {p : Quote → Prop} {s : Quote → Bool} :
    IsLatest p (given.filter s) q ↔ IsLatest (fun r => s r = true ∧ p r) given q := by
  constructor
  · rintro ⟨hq, before, behind, hsplit, hbefore, hbehind⟩
    obtain ⟨first, rest, rfl, rfl, hrest⟩ := List.filter_eq_append_iff.1 hsplit
    obtain ⟨skipped, behind', rfl, hskipped, hs, rfl⟩ := List.filter_eq_cons_iff.1 hrest
    refine ⟨⟨hs, hq⟩, first ++ skipped, behind', by simp, ?_, ?_⟩
    · rintro r hr ⟨hsr, hpr⟩
      rcases List.mem_append.1 hr with hr | hr
      · exact hbefore r (List.mem_filter.2 ⟨hr, hsr⟩) hpr
      · exact absurd hsr (hskipped r hr)
    · rintro r hr ⟨hsr, hpr⟩
      exact hbehind r (List.mem_filter.2 ⟨hr, hsr⟩) hpr
  · rintro ⟨⟨hs, hq⟩, before, behind, rfl, hbefore, hbehind⟩
    have hsplit : (before ++ q :: behind).filter s = before.filter s ++ q :: behind.filter s := by
      rw [List.filter_append, List.filter_cons_of_pos hs]
    refine ⟨hq, before.filter s, behind.filter s, hsplit, ?_, ?_⟩
    · intro r hr hpr
      exact hbefore r (List.mem_of_mem_filter hr) ⟨(List.mem_filter.1 hr).2, hpr⟩
    · intro r hr hpr
      exact hbehind r (List.mem_of_mem_filter hr) ⟨(List.mem_filter.1 hr).2, hpr⟩

namespace ByDate

/-- What is found from the end of the list is the latest of what was given. -/
lemma isLatest_of_find? (h : ByDate given qs) (hfind : qs.reverse.find? p = some q) :
    q.IsLatest (fun r => p r = true) given := by
  obtain ⟨hq, skipped, rest, hsplit, hskipped⟩ := List.find?_eq_some_iff_append.1 hfind
  obtain rfl : qs = rest.reverse ++ q :: skipped.reverse := by
    rw [← List.reverse_reverse qs, hsplit]
    simp
  have notLater : ∀ r ∈ given, p r = true → r.date ≤ q.date := by
    intro r hr hpr
    rcases List.mem_append.1 (h.perm.mem_iff.2 hr) with hr | hr
    · exact (List.pairwise_append.1 h.sorted).2.2 r hr q List.mem_cons_self
    · rcases List.mem_cons.1 hr with rfl | hr
      · exact Date.le_refl _
      · simpa [hpr] using hskipped r (List.mem_reverse.1 hr)
  have day := h.sameDay q.date
  rw [List.filter_append, List.filter_cons_of_pos (by simp)] at day
  obtain ⟨before, rest', rfl, _, hrest⟩ := List.filter_eq_append_iff.1 day.symm
  obtain ⟨otherDays, behind, rfl, _, _, hbehind⟩ := List.filter_eq_cons_iff.1 hrest
  refine ⟨hq, before ++ otherDays, behind, by simp, fun r hr => notLater r ?_, fun r hr hpr => ?_⟩
  · simp only [List.mem_append] at hr ⊢
    exact hr.imp id .inl
  · refine Date.lt_of_le_of_ne (notLater r (by simp [hr]) hpr) fun hdate => ?_
    have hmem : r ∈ behind.filter (·.date = q.date) := List.mem_filter.2 ⟨hr, decide_eq_true hdate⟩
    rw [hbehind] at hmem
    simpa [hpr] using hskipped r (List.mem_reverse.1 (List.mem_of_mem_filter hmem))

lemma find?_eq_some (h : ByDate given qs) :
    qs.reverse.find? p = some q ↔ q.IsLatest (fun r => p r = true) given := by
  refine ⟨h.isLatest_of_find?, fun hlatest => ?_⟩
  cases hfind : qs.reverse.find? p with
  | some r => rw [(h.isLatest_of_find? hfind).unique hlatest]
  | none =>
    obtain ⟨hq, before, behind, rfl, _⟩ := hlatest
    have hmem : q ∈ qs.reverse := List.mem_reverse.2 (h.perm.mem_iff.2 (by simp))
    exact absurd hq (List.find?_eq_none.1 hfind q hmem)

lemma lastPrice?_eq_some (h : ByDate given qs) : PriceTable.lastPrice? p qs = some a ↔
    Quote.IsLatestPrice (fun r => p r = true) given a := by
  rw [PriceTable.lastPrice?, Option.map_eq_some_iff]
  simp only [h.find?_eq_some, Quote.IsLatestPrice]

end ByDate

/-- If a condition holds of some quote, there is a latest one. -/
lemma Quote.exists_isLatestPrice {p : Quote → Prop} (h : ∃ q ∈ given, p q) :
    ∃ a, IsLatestPrice p given a := by
  classical
  obtain ⟨q, hq, hp⟩ := h
  have sorted := byDate_sortByDate given
  cases hfind : (PriceTable.sortByDate given).reverse.find? fun q => decide (p q) with
  | some r => exact ⟨r.price, r, by simpa using sorted.isLatest_of_find? hfind, rfl⟩
  | none =>
    have hmem : q ∈ (PriceTable.sortByDate given).reverse := List.mem_reverse.2 (sorted.perm.mem_iff.2 hq)
    exact absurd (decide_eq_true hp) (List.find?_eq_none.1 hfind q hmem)

end Daybook
