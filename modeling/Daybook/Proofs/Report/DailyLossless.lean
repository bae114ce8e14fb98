import Daybook.Proofs.Report.Daily

/-!
# Totals by day without loss

If totals by day are collected, added up and gone through without loss, then they are those of the
postings (`DailyTotals.holds_of_collect`): what they come to, what is carried in and the balance at each
day depend on the postings alone, not on the order in which they come.
-/

namespace Daybook

namespace DailyTotals

variable {first last date : Date} {ps : List Posting} {p : Posting} {t t' : DailyTotals}

/-! ### Collecting -/

/-- An amount is added to the total of its day. -/
lemma exists_add_of_addChange {A : Arithmetic} {amount : Decimal}
    {changes changes' : List (Date × Decimal)} (ordered : (changes.map (·.1)).Pairwise (· < ·))
    (h : addChange A date amount changes = .ok changes') {c : Date × Decimal} (hc : c ∈ changes)
    (hdate : c.1 = date) : ∃ b, A.add c.2 amount = .ok b := by
  induction changes generalizing changes' with
  | nil => cases hc
  | cons head changes ih =>
    obtain ⟨day, total⟩ := head
    rw [List.map_cons, List.pairwise_cons] at ordered
    obtain ⟨later, ordered⟩ := ordered
    rcases List.mem_cons.1 hc with rfl | hc
    · subst hdate
      rw [addChange, if_neg (Date.lt_irrefl _), if_pos rfl] at h
      obtain ⟨b, hb, _⟩ := bind_eq_ok.1 h
      exact ⟨b, hb⟩
    · have hlt : day < date := hdate ▸ later c.1 (List.mem_map_of_mem hc)
      rw [addChange, if_pos hlt] at h
      obtain ⟨rest, hrest, _⟩ := bind_eq_ok.1 h
      exact ih ordered hrest hc

/-- A posting that goes in without loss is in the totals. -/
lemma Holds.of_add (h : Holds first last ps t) (hspan : first ≤ last)
    (hadd : t.add .lossless p.date? p.amount = .ok t') : Holds first last (ps ++ [p]) t' := by
  -- adding gives one result, so it is enough to find one that holds
  suffices ∃ t', t.add .lossless p.date? p.amount = .ok t' ∧ Holds first last (ps ++ [p]) t' by
    obtain ⟨_, hadd', holds⟩ := this
    cases hadd.symm.trans hadd'
    exact holds
  refine h.exists_add hspan (Arithmetic.lossless_zero_add _) (fun hbefore => ?_) fun c hc hdate => ?_
  · rw [add_eq_carry (by rwa [h.first_eq, h.last_eq]) (by rwa [h.first_eq])] at hadd
    obtain ⟨c, hc, _⟩ := map_eq_ok.1 hadd
    exact ⟨c, hc, (Arithmetic.lossless_add.1 hc).2⟩
  · obtain ⟨hfirst, hlast⟩ := h.inside c hc
    rw [hdate, add_eq_change (by rwa [h.first_eq]) (by rwa [h.last_eq])] at hadd
    obtain ⟨changes, hchanges, _⟩ := map_eq_ok.1 hadd
    obtain ⟨b, hb⟩ := exists_add_of_addChange h.ordered hchanges hc rfl
    exact ⟨b, hb, (Arithmetic.lossless_add.1 hb).2⟩

theorem holds_of_collect (hspan : first ≤ last) {tally : Tally}
    (h : Tally.collect .lossless (some (first, last)) ps = .ok tally) :
    ∃ t, tally = .daily t ∧ Holds first last ps t := by
  induction ps using List.reverseRecOn generalizing tally with
  | nil =>
    cases h
    exact ⟨_, rfl, holds_empty first last⟩
  | append_singleton ps p ih =>
    rw [Tally.collect_concat] at h
    obtain ⟨before, hbefore, h⟩ := bind_eq_ok.1 h
    obtain ⟨t, rfl, holds⟩ := ih hbefore
    obtain ⟨t', hadd, h⟩ := bind_eq_ok.1 h
    cases h
    exact ⟨t', rfl, holds.of_add hspan hadd⟩

/-! ### Balances -/

lemma Holds.value_total (h : Holds first last ps t) (hspan : first ≤ last) {a : Decimal}
    (ha : t.total .lossless = .ok a) :
    a.value = Posting.sumWhere ((DateRange.upTo last).withUndated.contains ·.date?) ps := by
  obtain ⟨s, hs, ha⟩ := bind_eq_ok.1 ha
  have hchanges := Arithmetic.value_of_sum hs
  rw [List.map_map] at hchanges
  rw [(Arithmetic.lossless_add.1 ha).2, ← h.sumWhere_span hspan, h.carryIn_eq, hchanges,
    ← h.sum_changes List.prefix_rfl]
  rfl

lemma Holds.value_balanceAfter (h : Holds first last ps t) (hfirst : first ≤ date)
    (hlast : date ≤ last) {balance b : Decimal} {next? : Option Date}
    (hbalance : balance.value = Posting.sumWhere (beforeDay date ·.date?) ps)
    (hb : (⟨t, next?, balance⟩ : RunningBalance).balanceAfter .lossless date = .ok b) :
    b.value = Posting.sumWhere ((DateRange.upTo date).withUndated.contains ·.date?) ps := by
  have hchange := h.value_change? hfirst hlast
  rw [← sumWhere_before_add, ← hbalance, ← hchange]
  unfold RunningBalance.balanceAfter at hb
  cases hfound : t.change? date with
  | none =>
    simp only [hfound, Except.ok.injEq] at hb
    rw [← hb]
    exact (add_zero _).symm
  | some amount =>
    simp only [hfound] at hb
    exact (Arithmetic.lossless_add.1 hb).2

/-- A walk without loss tells the balances from its next day on. -/
lemma Holds.tells_of_take (h : Holds first last ps t) (hfirst : first ≤ date) (hlast : date ≤ last)
    {balance : Decimal} (hbalance : balance.value = Posting.sumWhere (beforeDay date ·.date?) ps)
    {count : ℕ} (hcount : last.dayNumber - date.dayNumber < count) {points : List DayPoint}
    (hpoints : (⟨t, some date, balance⟩ : RunningBalance).take .lossless count = .ok points) :
    Tells date last ps points := by
  induction count generalizing date balance points with
  | zero =>
    have := Date.dayNumber_le hlast
    simp at hcount
    omega
  | succ count ih =>
    obtain ⟨b, hb⟩ : ∃ b,
        (⟨t, some date, balance⟩ : RunningBalance).balanceAfter .lossless date = .ok b := by
      obtain ⟨_, hstep, _⟩ := bind_eq_ok.1 hpoints
      obtain ⟨b, hb, _⟩ := bind_eq_ok.1 hstep
      exact ⟨b, hb⟩
    have hv := h.value_balanceAfter hfirst hlast hbalance hb
    rw [take_of_balanceAfter count hb, h.last_eq] at hpoints
    obtain ⟨rest, hrest, rfl⟩ := map_eq_ok.1 hpoints
    rcases upToDay_next? last date with ⟨hnone, hover⟩ | ⟨n, hnext, hn, hsome⟩
    · obtain rfl := Date.le_antisymm hlast hover
      rw [hnone, take_of_none] at hrest
      cases hrest
      exact .single hv
    · have hlt : date < n := (Date.lt_next_iff hnext).2 (Date.le_refl date)
      have hnumber := Date.dayNumber_next hnext
      rw [hsome] at hrest
      exact (ih (Date.le_trans hfirst (Date.le_of_lt hlt)) hn
        (by rw [sumWhere_before_next hnext, hv]) (by push_cast at hcount; omega) hrest).cons hnext hn hv

theorem Holds.tells_of_series (h : Holds first last ps t) (hspan : first ≤ last) {s : DaySeries}
    (hs : t.series .lossless = .ok s) :
    s.carryIn.value = Posting.sumWhere (beforeDay first ·.date?) ps ∧
      Tells first last ps s.points := by
  obtain ⟨points, hpoints, hs⟩ := bind_eq_ok.1 hs
  cases hs
  rw [h.start_eq hspan] at hpoints
  exact ⟨h.carryIn_eq, h.tells_of_take (Date.le_refl first) hspan h.carryIn_eq
    (h.lt_length hspan) hpoints⟩

end DailyTotals

end Daybook
