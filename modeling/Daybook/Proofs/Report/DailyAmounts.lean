import Daybook.Proofs.Report.Daily

/-!
# Amounts in totals by day

Totals by day are collected from a list of amounts (`DailyTotals.ofList`). Each amount goes to one place:
what is dated in the span to the total of its day, what is undated or dated before the span to the balance
carried in, what is dated after the span nowhere. `DailyTotals.Collects` says that each of these is the sum of
its amounts, from zero and in the order in which they came, so it holds with roundings as well. The list can
be collected exactly if all these sums can be formed (`DailyTotals.exists_ofList_iff`).
-/

namespace Daybook

namespace DailyTotals

variable {A : Arithmetic} {first last date d : Date} {date? : Option Date} {amount b : Decimal}
  {changes : List (Date × Decimal)} {t t' : DailyTotals} {adds : List (Option Date × Decimal)}

/-! ### Changes by date -/

/-- What a list of changes has for a day. -/
def changeIn (changes : List (Date × Decimal)) (date : Date) : Option Decimal :=
  (changes.find? (·.1 == date)).map (·.2)

lemma changeIn_cons_self (date : Date) (amount : Decimal) (changes : List (Date × Decimal)) :
    changeIn ((date, amount) :: changes) date = some amount := by
  simp [changeIn]

lemma changeIn_cons_of_ne (h : date ≠ d) (amount : Decimal) (changes : List (Date × Decimal)) :
    changeIn ((date, amount) :: changes) d = changeIn changes d := by
  simp [changeIn, h]

lemma changeIn_eq_none_iff : changeIn changes d = none ↔ d ∉ changes.map (·.1) := by
  simp only [changeIn, Option.map_eq_none_iff, List.find?_eq_none, beq_iff_eq, List.mem_map, not_exists,
    not_and]

/-- Days before all changes have none. -/
lemma changeIn_of_lt (h : ∀ e ∈ changes.map (·.1), d < e) : changeIn changes d = none := by
  apply changeIn_eq_none_iff.2
  intro hd
  exact Date.lt_irrefl d (h d hd)

/-- Put the total of a day into its place. -/
def putChange (date : Date) (b : Decimal) : List (Date × Decimal) → List (Date × Decimal)
  | [] => [(date, b)]
  | (d, total) :: rest =>
    if d < date then (d, total) :: putChange date b rest
    else if d = date then (d, b) :: rest
    else (date, b) :: (d, total) :: rest

/-- Adding to the total of a day is one addition and puts the sum into its place. -/
lemma addChange_eq (ordered : (changes.map (·.1)).Pairwise (· < ·)) :
    addChange A date amount changes
      = (putChange date · changes) <$> A.add ((changeIn changes date).getD .zero) amount := by
  induction changes with
  | nil => rfl
  | cons c changes ih =>
    obtain ⟨day, total⟩ := c
    rw [List.map_cons, List.pairwise_cons] at ordered
    obtain ⟨later, ordered⟩ := ordered
    simp only [addChange, putChange]
    by_cases hlt : day < date
    · rw [changeIn_cons_of_ne (Date.ne_of_lt hlt), if_pos hlt, ih ordered]
      cases A.add ((changeIn changes date).getD .zero) amount with
      | error o => rfl
      | ok b => simp [hlt]
    · by_cases heq : day = date
      · subst heq
        rw [changeIn_cons_self, if_neg hlt, if_pos rfl, Option.getD_some]
        cases A.add total amount with
        | error o => rfl
        | ok b => simp [hlt]
      · -- the place is before this day, so the list has nothing for the date
        have hgt : date < day := Date.lt_of_le_of_ne (Date.not_lt.1 hlt) (Ne.symm heq)
        have new : changeIn ((day, total) :: changes) date = none := by
          apply changeIn_of_lt
          rw [List.map_cons]
          exact List.forall_mem_cons.2 ⟨hgt, fun e he => Date.lt_trans hgt (later e he)⟩
        rw [new, if_neg hlt, if_neg heq, Option.getD_none]
        cases A.add .zero amount with
        | error o => rfl
        | ok b => simp [hlt, heq]

lemma mem_dates_putChange :
    d ∈ (putChange date b changes).map (·.1) ↔ d = date ∨ d ∈ changes.map (·.1) := by
  induction changes with
  | nil => simp [putChange]
  | cons c changes ih =>
    obtain ⟨day, total⟩ := c
    rw [putChange]
    split
    · rw [List.map_cons, List.map_cons, List.mem_cons, List.mem_cons, ih]
      tauto
    · split
      · rename_i heq
        simp [heq]
      · simp

lemma ordered_putChange (ordered : (changes.map (·.1)).Pairwise (· < ·)) :
    ((putChange date b changes).map (·.1)).Pairwise (· < ·) := by
  induction changes with
  | nil => simp [putChange]
  | cons c changes ih =>
    obtain ⟨day, total⟩ := c
    rw [List.map_cons, List.pairwise_cons] at ordered
    obtain ⟨later, ordered⟩ := ordered
    rw [putChange]
    split
    · rename_i hlt
      rw [List.map_cons, List.pairwise_cons]
      refine ⟨fun e he => ?_, ih ordered⟩
      rcases mem_dates_putChange.1 he with rfl | he
      · exact hlt
      · exact later e he
    · rename_i hlt
      split
      · exact List.pairwise_cons.2 ⟨later, ordered⟩
      · rename_i hne
        have hgt : date < day := Date.lt_of_le_of_ne (Date.not_lt.1 hlt) (Ne.symm hne)
        rw [List.map_cons, List.map_cons, List.pairwise_cons]
        refine ⟨?_, List.pairwise_cons.2 ⟨later, ordered⟩⟩
        exact List.forall_mem_cons.2 ⟨hgt, fun e he => Date.lt_trans hgt (later e he)⟩

/-- Only that day changes. -/
lemma changeIn_putChange (ordered : (changes.map (·.1)).Pairwise (· < ·)) :
    changeIn (putChange date b changes) d = if d = date then some b else changeIn changes d := by
  induction changes with
  | nil =>
    split
    · next heq => rw [heq, putChange, changeIn_cons_self]
    · next hne => rw [putChange, changeIn_cons_of_ne (Ne.symm hne)]
  | cons c changes ih =>
    obtain ⟨day, total⟩ := c
    rw [List.map_cons, List.pairwise_cons] at ordered
    obtain ⟨later, ordered⟩ := ordered
    rw [putChange]
    by_cases hlt : day < date
    · rw [if_pos hlt]
      by_cases hday : day = d
      · subst hday
        rw [changeIn_cons_self, changeIn_cons_self, if_neg (Date.ne_of_lt hlt)]
      · rw [changeIn_cons_of_ne hday, changeIn_cons_of_ne hday, ih ordered]
    · rw [if_neg hlt]
      by_cases heq : day = date
      · subst heq
        rw [if_pos rfl]
        by_cases hd : d = day
        · rw [hd, changeIn_cons_self, if_pos rfl]
        · rw [changeIn_cons_of_ne (Ne.symm hd), changeIn_cons_of_ne (Ne.symm hd), if_neg hd]
      · rw [if_neg heq]
        by_cases hd : d = date
        · rw [hd, changeIn_cons_self, if_pos rfl]
        · rw [changeIn_cons_of_ne (Ne.symm hd), if_neg hd]

/-! ### Collecting a list of amounts -/

/-- The totals of amounts with their dates, in the order in which they come. -/
def ofList (A : Arithmetic) (first last : Date) (adds : List (Option Date × Decimal)) :
    Except Overflow DailyTotals :=
  adds.foldlM (fun t a => t.add A a.1 a.2) (empty first last)

/-- Whether an amount goes into the balance carried in. -/
def isCarried (first last : Date) : Option Date → Bool
  | some d => decide (d ≤ last) && decide (d < first)
  | none   => true

/-- The amounts of the balance carried in. -/
def amountsCarried (first last : Date) (adds : List (Option Date × Decimal)) : List Decimal :=
  (adds.filter fun a => isCarried first last a.1).map (·.2)

/-- The amounts of a day. -/
def amountsOn (d : Date) (adds : List (Option Date × Decimal)) : List Decimal :=
  (adds.filter fun a => a.1 == some d).map (·.2)

lemma ofList_concat (A : Arithmetic) (first last : Date) (adds : List (Option Date × Decimal))
    (a : Option Date × Decimal) : ofList A first last (adds ++ [a])
      = ofList A first last adds >>= fun t => t.add A a.1 a.2 := by
  simp only [ofList, List.foldlM_append, List.foldlM_cons, List.foldlM_nil, bind_pure]

lemma amountsCarried_concat (h : isCarried first last date? = true) (amount : Decimal) :
    amountsCarried first last (adds ++ [(date?, amount)])
      = amountsCarried first last adds ++ [amount] := by
  simp [amountsCarried, h]

lemma amountsCarried_concat_of_not (h : isCarried first last date? = false) (amount : Decimal) :
    amountsCarried first last (adds ++ [(date?, amount)]) = amountsCarried first last adds := by
  simp [amountsCarried, h]

lemma amountsOn_concat_self (d : Date) (adds : List (Option Date × Decimal)) (amount : Decimal) :
    amountsOn d (adds ++ [(some d, amount)]) = amountsOn d adds ++ [amount] := by
  simp [amountsOn]

lemma amountsOn_concat_of_ne (h : date? ≠ some d) (amount : Decimal) :
    amountsOn d (adds ++ [(date?, amount)]) = amountsOn d adds := by
  simp [amountsOn, h]

/-- The totals are the sums of their amounts, from zero and in the order in which they came. -/
structure Collects (A : Arithmetic) (first last : Date) (adds : List (Option Date × Decimal))
    (t : DailyTotals) : Prop where
  first_eq : t.first = first
  last_eq : t.last = last
  carryIn_eq : A.sum (amountsCarried first last adds) = .ok t.carryIn
  ordered : (t.changes.map (·.1)).Pairwise (· < ·)
  inside : ∀ e ∈ t.changes.map (·.1), first ≤ e ∧ e ≤ last
  sum_eq : ∀ d, first ≤ d → d ≤ last →
    A.sum (amountsOn d adds) = .ok ((changeIn t.changes d).getD .zero)
  none_iff : ∀ d, first ≤ d → d ≤ last → (changeIn t.changes d = none ↔ amountsOn d adds = [])

lemma collects_empty (A : Arithmetic) (first last : Date) :
    Collects A first last [] (empty first last) where
  first_eq := rfl
  last_eq := rfl
  carryIn_eq := rfl
  ordered := by simp [empty]
  inside := by simp [empty]
  sum_eq _ _ _ := rfl
  none_iff _ _ _ := ⟨fun _ => rfl, fun _ => rfl⟩

/-! ### One more amount -/

/-- An amount is carried in, or it comes too late, or it has a day in the span. -/
lemma place_cases (first last : Date) (date? : Option Date) :
    isCarried first last date? = true ∨ (∃ d, date? = some d ∧ last < d) ∨
      ∃ d, date? = some d ∧ first ≤ d ∧ d ≤ last := by
  cases date? with
  | none => exact .inl rfl
  | some d =>
    by_cases hlast : last < d
    · exact .inr (.inl ⟨d, rfl, hlast⟩)
    · have hlast := Date.not_lt.1 hlast
      by_cases hfirst : first ≤ d
      · exact .inr (.inr ⟨d, rfl, hfirst, hlast⟩)
      · exact .inl (by simp [isCarried, hlast, Date.not_le.1 hfirst])

lemma isCarried_of_last_lt (h : last < d) : isCarried first last (some d) = false := by
  simp [isCarried, Date.not_le.2 h]

lemma isCarried_of_first_le (h : first ≤ d) : isCarried first last (some d) = false := by
  simp [isCarried, Date.not_lt.2 h]

lemma ne_of_isCarried (h : isCarried first last date? = true) (hd : first ≤ d) : date? ≠ some d := by
  rintro rfl
  simp [isCarried_of_first_le hd] at h

lemma add_of_isCarried (h : isCarried t.first t.last date? = true) :
    t.add A date? amount = (fun c => { t with carryIn := c }) <$> A.add t.carryIn amount := by
  cases date? with
  | none => rfl
  | some d =>
    have hd : d ≤ t.last ∧ d < t.first := by simpa [isCarried] using h
    simp only [add, if_neg (Date.not_lt.2 hd.1), if_neg (Date.not_le.2 hd.2)]
    rfl

/-- An amount that is carried in. -/
lemma Collects.concat_carried (h : Collects A first last adds t)
    (hplace : isCarried first last date? = true) (hb : A.add t.carryIn amount = .ok b) :
    Collects A first last (adds ++ [(date?, amount)]) { t with carryIn := b } where
  first_eq := h.first_eq
  last_eq := h.last_eq
  carryIn_eq := by rw [amountsCarried_concat hplace, Arithmetic.sum_append, h.carryIn_eq, ok_bind, hb]
  ordered := h.ordered
  inside := h.inside
  sum_eq d hfirst hlast := by
    rw [amountsOn_concat_of_ne (ne_of_isCarried hplace hfirst), h.sum_eq d hfirst hlast]
  none_iff d hfirst hlast := by
    rw [amountsOn_concat_of_ne (ne_of_isCarried hplace hfirst), h.none_iff d hfirst hlast]

/-- One that comes too late. -/
lemma Collects.concat_late (h : Collects A first last adds t) (hdate : last < date)
    (amount : Decimal) : Collects A first last (adds ++ [(some date, amount)]) t := by
  have outside : ∀ d, d ≤ last → some date ≠ some d := by
    rintro d hd heq
    cases heq
    exact Date.not_le.2 hdate hd
  refine { h with carryIn_eq := ?_, sum_eq := ?_, none_iff := ?_ }
  · rw [amountsCarried_concat_of_not (isCarried_of_last_lt hdate), h.carryIn_eq]
  · intro d hfirst hlast
    rw [amountsOn_concat_of_ne (outside d hlast), h.sum_eq d hfirst hlast]
  · intro d hfirst hlast
    rw [amountsOn_concat_of_ne (outside d hlast), h.none_iff d hfirst hlast]

/-- One with a day in the span. -/
lemma Collects.concat_within (h : Collects A first last adds t) (hfirst : first ≤ date)
    (hlast : date ≤ last) (hb : A.add ((changeIn t.changes date).getD .zero) amount = .ok b) :
    Collects A first last (adds ++ [(some date, amount)])
      { t with changes := putChange date b t.changes } where
  first_eq := h.first_eq
  last_eq := h.last_eq
  carryIn_eq := by
    rw [amountsCarried_concat_of_not (isCarried_of_first_le hfirst), h.carryIn_eq]
  ordered := ordered_putChange h.ordered
  inside e he := by
    rcases mem_dates_putChange.1 he with rfl | he
    · exact ⟨hfirst, hlast⟩
    · exact h.inside e he
  sum_eq d hdfirst hdlast := by
    rw [changeIn_putChange h.ordered]
    split
    · next heq =>
      subst heq
      rw [amountsOn_concat_self, Arithmetic.sum_append, h.sum_eq d hfirst hlast, ok_bind, hb]
      rfl
    · next hne =>
      rw [amountsOn_concat_of_ne (fun h => hne (Option.some.inj h).symm), h.sum_eq d hdfirst hdlast]
  none_iff d hdfirst hdlast := by
    rw [changeIn_putChange h.ordered]
    split
    · next heq =>
      subst heq
      simp [amountsOn_concat_self]
    · next hne =>
      rw [amountsOn_concat_of_ne (fun h => hne (Option.some.inj h).symm), h.none_iff d hdfirst hdlast]

/-- Totals stay the sums of their amounts. -/
lemma Collects.of_add (h : Collects A first last adds t) (hadd : t.add A date? amount = .ok t') :
    Collects A first last (adds ++ [(date?, amount)]) t' := by
  rcases place_cases first last date? with hplace | ⟨date, rfl, hlate⟩ | ⟨date, rfl, hfirst, hlast⟩
  · -- carried in
    rw [add_of_isCarried (by rwa [h.first_eq, h.last_eq])] at hadd
    obtain ⟨b, hb, rfl⟩ := map_eq_ok.1 hadd
    exact h.concat_carried hplace hb
  · -- too late, and left out
    rw [add_eq_self (by rwa [h.last_eq])] at hadd
    cases hadd
    exact h.concat_late hlate amount
  · -- on a day of the span
    rw [add_eq_change (by rwa [h.first_eq]) (by rwa [h.last_eq]), addChange_eq h.ordered] at hadd
    obtain ⟨_, hchanges, rfl⟩ := map_eq_ok.1 hadd
    obtain ⟨b, hb, rfl⟩ := map_eq_ok.1 hchanges
    exact h.concat_within hfirst hlast hb

/-- An amount can be added if the sum that it belongs to can be formed. -/
lemma Collects.exists_add (h : Collects A first last adds t)
    (hcarried : ∃ c, A.sum (amountsCarried first last (adds ++ [(date?, amount)])) = .ok c)
    (hdays : ∀ d, first ≤ d → d ≤ last → ∃ c, A.sum (amountsOn d (adds ++ [(date?, amount)])) = .ok c) :
    ∃ t', t.add A date? amount = .ok t' := by
  rcases place_cases first last date? with hplace | ⟨date, rfl, hlate⟩ | ⟨date, rfl, hfirst, hlast⟩
  · obtain ⟨c, hc⟩ := hcarried
    rw [amountsCarried_concat hplace, Arithmetic.sum_append, h.carryIn_eq, ok_bind] at hc
    exact ⟨_, by rw [add_of_isCarried (by rwa [h.first_eq, h.last_eq]), hc]; rfl⟩
  · exact ⟨t, add_eq_self (by rwa [h.last_eq])⟩
  · obtain ⟨c, hc⟩ := hdays date hfirst hlast
    rw [amountsOn_concat_self, Arithmetic.sum_append, h.sum_eq date hfirst hlast, ok_bind] at hc
    refine ⟨{ t with changes := putChange date c t.changes }, ?_⟩
    rw [add_eq_change (by rwa [h.first_eq]) (by rwa [h.last_eq]), addChange_eq h.ordered, hc]
    rfl

/-! ### All amounts -/

/-- Collected totals are the sums of their amounts. -/
theorem collects_of_ofList (h : ofList A first last adds = .ok t) : Collects A first last adds t := by
  induction adds using List.reverseRecOn generalizing t with
  | nil =>
    cases h
    exact collects_empty A first last
  | append_singleton adds a ih =>
    rw [ofList_concat] at h
    obtain ⟨before, hbefore, hadd⟩ := bind_eq_ok.1 h
    exact (ih hbefore).of_add hadd

/-- What is dated after the span makes no difference. -/
lemma ofList_withoutLate (A : Arithmetic) (first last : Date) (adds : List (Option Date × Decimal)) :
    ofList A first last (adds.filter fun a => a.1.all (· ≤ last)) = ofList A first last adds := by
  induction adds using List.reverseRecOn with
  | nil => rfl
  | append_singleton adds a ih =>
    obtain ⟨date?, amount⟩ := a
    rw [List.filter_append, ofList_concat]
    by_cases hlate : date?.all (· ≤ last) = true
    · rw [List.filter_cons_of_pos (by exact hlate), List.filter_nil, ofList_concat, ih]
    · -- a late amount, which collecting passes over as well
      obtain ⟨d, rfl, hd⟩ : ∃ d, date? = some d ∧ last < d := by
        cases date? with
        | none => exact absurd rfl hlate
        | some d => exact ⟨d, rfl, Date.not_le.1 (by simpa using hlate)⟩
      rw [List.filter_cons_of_neg (by exact hlate), List.filter_nil, List.append_nil, ih]
      cases ht : ofList A first last adds with
      | error o => rfl
      | ok t => rw [ok_bind, add_eq_self (by rwa [(collects_of_ofList ht).last_eq])]

lemma exists_sum_of_append {xs : List Decimal} {x : Decimal} (h : ∃ c, A.sum (xs ++ [x]) = .ok c) :
    ∃ c, A.sum xs = .ok c := by
  obtain ⟨c, hc⟩ := h
  rw [Arithmetic.sum_append] at hc
  obtain ⟨b, hb, _⟩ := bind_eq_ok.1 hc
  exact ⟨b, hb⟩

/-- Amounts can be collected exactly if all sums that they belong to can be formed. -/
theorem exists_ofList_iff : (∃ t, ofList A first last adds = .ok t) ↔
    (∃ c, A.sum (amountsCarried first last adds) = .ok c) ∧
      ∀ d, first ≤ d → d ≤ last → ∃ c, A.sum (amountsOn d adds) = .ok c := by
  constructor
  · rintro ⟨t, ht⟩
    have h := collects_of_ofList ht
    exact ⟨⟨_, h.carryIn_eq⟩, fun d hfirst hlast => ⟨_, h.sum_eq d hfirst hlast⟩⟩
  · induction adds using List.reverseRecOn with
    | nil =>
      intro _
      exact ⟨_, rfl⟩
    | append_singleton adds a ih =>
      rintro ⟨hcarried, hdays⟩
      obtain ⟨date?, amount⟩ := a
      -- the sums of all amounts but the last are beginnings of the given ones
      obtain ⟨t, ht⟩ : ∃ t, ofList A first last adds = .ok t := by
        apply ih
        constructor
        · by_cases hplace : isCarried first last date? = true
          · rw [amountsCarried_concat hplace] at hcarried
            exact exists_sum_of_append hcarried
          · rwa [amountsCarried_concat_of_not (by simpa using hplace)] at hcarried
        · intro d hfirst hlast
          have hday := hdays d hfirst hlast
          by_cases hdate : date? = some d
          · rw [hdate, amountsOn_concat_self] at hday
            exact exists_sum_of_append hday
          · rwa [amountsOn_concat_of_ne hdate] at hday
      obtain ⟨t', ht'⟩ := (collects_of_ofList ht).exists_add hcarried hdays
      exact ⟨t', by rw [ofList_concat, ht, ok_bind, ht']⟩

end DailyTotals

end Daybook
