import Daybook.Proofs.Report.DailyAmounts

/-!
# Walks through the days of a span

A walk gives one point for each day from the first to the last, and then nothing (`RunningBalance.Walks`).
`RunningBalance.length` is at every time the number of points still to come. The balance of a day is the
balance carried in, to which the changes of the days up to that one are added in their order
(`DailyTotals.balanceThrough`); where such an addition overflows, the walk ends with the overflow.

All of this follows from the days that a walk has before it (`Upcoming`), by induction on them.
-/

namespace Daybook

variable {A : Arithmetic} {first last date d : Date} {days : List Date}

/-! ### Upcoming days -/

/-- The days that a walk has before it, given the next one. -/
def Upcoming (last : Date) : Option Date → List Date → Prop
  | next?, []        => next? = none
  | next?, d :: days => next? = some d ∧ Upcoming last (upToDay last d.next?) days

lemma le_of_upToDay {next? : Option Date} (h : upToDay last next? = some d) : d ≤ last := by
  cases next? with
  | none => cases h
  | some e =>
    by_cases hle : e ≤ last
    · rw [upToDay, if_pos hle] at h
      cases h
      exact hle
    · rw [upToDay, if_neg hle] at h
      cases h

/-- A walk has all days of its span before it, each once and in their order. -/
lemma exists_upcoming (first last : Date) : ∃ days,
    Upcoming last (upToDay last (some first)) days ∧ days.Pairwise (· < ·) ∧
      (∀ d, d ∈ days ↔ first ≤ d ∧ d ≤ last) ∧
      (days.length : ℤ) = max 0 (last.dayNumber - first.dayNumber + 1) := by
  by_cases hspan : first ≤ last
  · -- induction on the number of days after the first one
    generalize hcount : (last.dayNumber - first.dayNumber).toNat = count
    have hle := Date.dayNumber_le hspan
    induction count generalizing first with
    | zero =>
      obtain rfl : first = last := Date.dayNumber_injective (by omega)
      refine ⟨[first], ⟨if_pos hspan, ?_⟩, by simp, fun d => ?_, by simp⟩
      · rcases DailyTotals.upToDay_next? first first with ⟨hnone, _⟩ | ⟨n, hnext, hn, _⟩
        · exact hnone
        · exact absurd hn (Date.not_le.2 ((Date.lt_next_iff hnext).2 (Date.le_refl first)))
      · rw [List.mem_singleton]
        constructor
        · rintro rfl
          exact ⟨hspan, hspan⟩
        · rintro ⟨hfirst, hlast⟩
          exact Date.le_antisymm hlast hfirst
    | succ count ih =>
      rcases DailyTotals.upToDay_next? last first with ⟨_, hover⟩ | ⟨n, hnext, hn, hsome⟩
      · have := Date.dayNumber_le hover
        omega
      · have hnumber := Date.dayNumber_next hnext
        have hlt : first < n := (Date.lt_next_iff hnext).2 (Date.le_refl first)
        obtain ⟨days, hup, hordered, hmem, hlength⟩ :=
          ih n hn (by omega) (Date.dayNumber_le hn)
        refine ⟨first :: days, ⟨if_pos hspan, ?_⟩, ?_, fun d => ?_, ?_⟩
        · rw [hsome]
          rwa [upToDay, if_pos hn] at hup
        · exact List.pairwise_cons.2 ⟨fun d hd => Date.lt_of_lt_of_le hlt ((hmem d).1 hd).1, hordered⟩
        · -- a day of the span is the first one, or it is not before the next one
          rw [List.mem_cons, hmem]
          constructor
          · rintro (rfl | ⟨hnd, hd⟩)
            · exact ⟨Date.le_refl _, hspan⟩
            · exact ⟨Date.le_trans (Date.le_of_lt hlt) hnd, hd⟩
          · rintro ⟨hfirst, hd⟩
            by_cases hnd : n ≤ d
            · exact .inr ⟨hnd, hd⟩
            · exact .inl (Date.le_antisymm ((Date.lt_next_iff hnext).1 (Date.not_le.1 hnd)) hfirst)
        · rw [List.length_cons, Nat.cast_add, hlength]
          omega
  · have hlt := Date.dayNumber_lt (Date.not_le.1 hspan)
    refine ⟨[], if_neg hspan, .nil, fun d => ?_, by rw [List.length_nil]; omega⟩
    constructor
    · exact fun hd => absurd hd List.not_mem_nil
    · rintro ⟨hfirst, hlast⟩
      exact absurd (Date.le_trans hfirst hlast) hspan

namespace RunningBalance

variable {w w' : RunningBalance} {balance : Date → Except Overflow Decimal}

/-- The length of a walk is the number of days before it. -/
lemma length_eq (h : Upcoming w.totals.last w.next? days) (hle : ∀ d, w.next? = some d → d ≤ w.totals.last) :
    w.length = days.length := by
  induction days generalizing w with
  | nil =>
    have hnone : w.next? = none := h
    rw [length, hnone, List.length_nil]
  | cons d days ih =>
    obtain ⟨hsome, hup⟩ := h
    have hnumber := Date.dayNumber_le (hle d hsome)
    have hrest := ih (w := ⟨w.totals, upToDay w.totals.last d.next?, w.balance⟩) hup fun _ => le_of_upToDay
    rw [length, hsome, List.length_cons, ← hrest]
    rcases DailyTotals.upToDay_next? w.totals.last d with ⟨hnone, hover⟩ | ⟨n, hnext, hn, hsome⟩
    · obtain rfl := Date.le_antisymm (hle d hsome) hover
      simp [length, hnone]
    · have hnext := Date.dayNumber_next hnext
      have hn := Date.dayNumber_le hn
      simp only [length, hsome]
      omega

/-! ### Calls of a walk -/

/-- The walk after a number of calls. One that is over stays as it is. -/
def after (A : Arithmetic) (w : RunningBalance) : ℕ → Except Overflow RunningBalance
  | 0     => .ok w
  | n + 1 => do
    match ← w.step A with
    | none           => return w
    | some (_, rest) => rest.after A n

/-- The calls give a point for each of the days, one after another, and then nothing. Where the balance of a
day overflows, the call for that day does. -/
inductive Walks (A : Arithmetic) (balance : Date → Except Overflow Decimal) :
    RunningBalance → List Date → Prop
  | finished {w : RunningBalance} (h : w.step A = .ok none) : Walks A balance w []
  | day {w rest : RunningBalance} {d : Date} {days : List Date} {b : Decimal} (hb : balance d = .ok b)
      (h : w.step A = .ok (some (⟨d, b⟩, rest))) (hrest : Walks A balance rest days) :
      Walks A balance w (d :: days)
  | overflow {w : RunningBalance} {d : Date} {days : List Date} {o : Overflow}
      (hb : balance d = .error o) (h : w.step A = .error o) : Walks A balance w (d :: days)

lemma step_of_none (h : w.next? = none) : w.step A = .ok none := by
  rw [step, h]

lemma step_of_some (h : w.next? = some d) : w.step A = (fun b =>
    some (⟨d, b⟩, ⟨w.totals, upToDay w.totals.last d.next?, b⟩)) <$> w.balanceAfter A d := by
  rw [step, h]
  rfl

/-- A call takes the first of the upcoming days away, and leaves the totals as they are. -/
lemma upcoming_after {n : ℕ} (h : Upcoming w.totals.last w.next? days)
    (hle : ∀ d, w.next? = some d → d ≤ w.totals.last) (hw : w.after A n = .ok w') :
    w'.totals = w.totals ∧ Upcoming w'.totals.last w'.next? (days.drop n) ∧
      ∀ d, w'.next? = some d → d ≤ w'.totals.last := by
  induction n generalizing w days with
  | zero =>
    cases hw
    exact ⟨rfl, h, hle⟩
  | succ n ih =>
    obtain ⟨called, hcalled, hw⟩ := bind_eq_ok.1 hw
    cases days with
    | nil =>
      rw [step_of_none h] at hcalled
      cases hcalled
      cases hw
      exact ⟨rfl, h, hle⟩
    | cons d days =>
      obtain ⟨hsome, hup⟩ := h
      rw [step_of_some hsome] at hcalled
      obtain ⟨b, _, rfl⟩ := map_eq_ok.1 hcalled
      exact ih (w := ⟨w.totals, upToDay w.totals.last d.next?, b⟩) hup (fun _ => le_of_upToDay) hw

lemma Walks.after {n : ℕ} (h : w.Walks A balance days) (hw : w.after A n = .ok w') :
    w'.Walks A balance (days.drop n) := by
  induction n generalizing w days with
  | zero =>
    cases hw
    exact h
  | succ n ih =>
    obtain ⟨called, hcalled, hw⟩ := bind_eq_ok.1 hw
    cases h with
    | finished h =>
      cases h.symm.trans hcalled
      cases hw
      exact .finished h
    | day hb h hrest =>
      cases h.symm.trans hcalled
      exact ih hrest hw
    | overflow hb h => cases h.symm.trans hcalled

end RunningBalance

/-! ### Balances -/

namespace DailyTotals

variable {adds : List (Option Date × Decimal)} {t : DailyTotals} {before : List Date} {b : Decimal}

/-- Add the change of a day to a balance: the sum of its amounts, if it has any. -/
def addDay (A : Arithmetic) (adds : List (Option Date × Decimal)) (balance : Decimal) (d : Date) :
    Except Overflow Decimal :=
  match amountsOn d adds with
  | []      => .ok balance
  | amounts => do A.add balance (← A.sum amounts)

/-- The balance carried in, to which the changes of days are added in their order. -/
def balanceThrough (A : Arithmetic) (first last : Date) (adds : List (Option Date × Decimal))
    (days : List Date) : Except Overflow Decimal := do
  days.foldlM (addDay A adds) (← A.sum (amountsCarried first last adds))

lemma balanceThrough_concat (A : Arithmetic) (first last : Date) (adds : List (Option Date × Decimal))
    (days : List Date) (d : Date) : balanceThrough A first last adds (days ++ [d])
      = balanceThrough A first last adds days >>= fun b => addDay A adds b d := by
  simp only [balanceThrough, List.foldlM_append, List.foldlM_cons, List.foldlM_nil, bind_pure, bind_assoc]

/-- A walk adds the change of a day. -/
lemma Collects.addDay_eq (h : Collects A first last adds t) (hfirst : first ≤ d) (hlast : d ≤ last)
    (b : Decimal) (next? : Option Date) :
    addDay A adds b d = (⟨t, next?, b⟩ : RunningBalance).balanceAfter A d := by
  have hsum := h.sum_eq d hfirst hlast
  have hnone := h.none_iff d hfirst hlast
  rw [addDay, RunningBalance.balanceAfter, show t.change? d = changeIn t.changes d from rfl]
  cases hchange : changeIn t.changes d with
  | none => rw [hnone.1 hchange]
  | some total =>
    cases hamounts : amountsOn d adds with
    | nil => simp [hnone.2 hamounts] at hchange
    | cons amount amounts =>
      rw [hamounts, hchange] at hsum
      simp only [hsum, Option.getD_some, ok_bind]

/-- Up to a day there are the days before it and the day itself. -/
lemma filter_le_of_ordered (h : (before ++ d :: days).Pairwise (· < ·)) :
    (before ++ d :: days).filter (fun e => decide (e ≤ d)) = before ++ [d] := by
  rw [List.pairwise_append, List.pairwise_cons] at h
  obtain ⟨_, ⟨hafter, _⟩, hbefore⟩ := h
  have kept : before.filter (fun e => decide (e ≤ d)) = before := by
    apply List.filter_eq_self.2
    intro e he
    exact decide_eq_true (Date.le_of_lt (hbefore e he d List.mem_cons_self))
  have dropped : days.filter (fun e => decide (e ≤ d)) = [] := by
    apply List.filter_eq_nil_iff.2
    intro e he
    simpa using Date.not_le.2 (hafter e he)
  rw [List.filter_append, List.filter_cons_of_pos (by simpa using Date.le_refl d), kept, dropped]

/-- A walk tells the balances of the days that it has before it. -/
lemma Collects.walks (h : Collects A first last adds t) (before : List Date) {next? : Option Date}
    (hup : Upcoming last next? days) (hordered : (before ++ days).Pairwise (· < ·))
    (hspan : ∀ d ∈ days, first ≤ d ∧ d ≤ last)
    (hb : balanceThrough A first last adds before = .ok b) :
    (⟨t, next?, b⟩ : RunningBalance).Walks A
      (fun d => balanceThrough A first last adds ((before ++ days).filter (· ≤ d))) days := by
  induction days generalizing before b next? with
  | nil => exact .finished (RunningBalance.step_of_none hup)
  | cons d days ih =>
    obtain ⟨rfl, hup⟩ := hup
    obtain ⟨⟨hfirst, hlast⟩, hspan⟩ := List.forall_mem_cons.1 hspan
    have hstep := RunningBalance.step_of_some (A := A) (w := ⟨t, some d, b⟩) rfl
    rw [← h.addDay_eq hfirst hlast] at hstep
    have hbalance := balanceThrough_concat A first last adds before d
    rw [hb, ok_bind, ← filter_le_of_ordered hordered] at hbalance
    cases hday : addDay A adds b d with
    | error o =>
      rw [hday] at hstep hbalance
      exact .overflow hbalance hstep
    | ok c =>
      rw [hday] at hstep hbalance
      have hnext : balanceThrough A first last adds (before ++ [d]) = .ok c := by
        rw [balanceThrough_concat, hb, ok_bind, hday]
      have hrest := ih (before ++ [d]) hup (by simpa using hordered) hspan hnext
      rw [List.append_assoc, List.singleton_append] at hrest
      refine .day hbalance hstep ?_
      show (⟨t, upToDay t.last d.next?, c⟩ : RunningBalance).Walks _ _ _
      rw [h.last_eq]
      exact hrest

/-- Amounts can be collected exactly if the sums that they belong to can be formed, and what is dated after the
span makes no difference. A walk then goes through the days of the span, each once and in their order. After
any number of calls it knows how many points are still to come, gives these and then nothing, and another
walk begins anew. -/
theorem walk_of_ofList (first last : Date) (adds : List (Option Date × Decimal)) :
    ((∃ t, ofList .rounding first last adds = .ok t) ↔
      (∃ c, Arithmetic.rounding.sum (amountsCarried first last adds) = .ok c) ∧
        ∀ d, first ≤ d → d ≤ last → ∃ c, Arithmetic.rounding.sum (amountsOn d adds) = .ok c) ∧
    ofList .rounding first last (adds.filter fun a => a.1.all (· ≤ last))
      = ofList .rounding first last adds ∧
    ∀ t, ofList .rounding first last adds = .ok t → ∃ days : List Date,
      days.Pairwise (· < ·) ∧ (∀ d, d ∈ days ↔ first ≤ d ∧ d ≤ last) ∧
      ∀ n w, (RunningBalance.start t).after .rounding n = .ok w →
        (w.length : ℤ) = max 0 (last.dayNumber - first.dayNumber + 1 - n) ∧
        (days.drop n).length = w.length ∧
        w.Walks .rounding (fun d => balanceThrough .rounding first last adds (days.filter (· ≤ d)))
          (days.drop n) ∧
        RunningBalance.start w.totals = RunningBalance.start t := by
  refine ⟨exists_ofList_iff, ofList_withoutLate .rounding first last adds, fun t ht => ?_⟩
  have h := collects_of_ofList ht
  obtain ⟨days, hup, hordered, hmem, hlength⟩ := exists_upcoming first last
  have hstart : Upcoming t.last (RunningBalance.start t).next? days := by
    rw [RunningBalance.start, h.first_eq, h.last_eq]
    exact hup
  have hspan : ∀ d, (RunningBalance.start t).next? = some d → d ≤ t.last := by
    intro d hd
    change upToDay t.last (some t.first) = some d at hd
    exact le_of_upToDay hd
  have hwalks : (RunningBalance.start t).Walks .rounding
      (fun d => balanceThrough .rounding first last adds (days.filter (· ≤ d))) days := by
    have hcarry : balanceThrough .rounding first last adds [] = .ok t.carryIn := by
      rw [balanceThrough, h.carryIn_eq]
      rfl
    rw [RunningBalance.start, h.first_eq, h.last_eq]
    exact h.walks [] hup hordered (fun d hd => (hmem d).1 hd) hcarry
  refine ⟨days, hordered, hmem, fun n w hw => ?_⟩
  obtain ⟨htotals, hahead, hle⟩ := RunningBalance.upcoming_after hstart hspan hw
  have hleft := RunningBalance.length_eq hahead hle
  refine ⟨?_, hleft.symm, hwalks.after hw, by rw [htotals]; rfl⟩
  rw [hleft, List.length_drop]
  omega

/-- Amounts around the turn of a month: an undated one, two of the day before its end, one of the first day of
the next month and one of years later. -/
def turnOfMonthAmounts : List (Option Date × Decimal) :=
  [(none, .one), (some .january2028, .four), (some .january30, .two), (some .february1, .minusTwo),
    (some .january30, .tenth)]

/-- After the first of three days, two are left. -/
theorem turnOfMonth_walk : ∃ t w,
    ofList .rounding .january30 .february1 turnOfMonthAmounts = .ok t ∧
    (RunningBalance.start t).after .rounding 1 = .ok w ∧ (w.length : ℤ) = 2 ∧
    ∃ days : List Date, days.length = 3 ∧
      w.Walks .rounding (fun d => balanceThrough .rounding .january30 .february1 turnOfMonthAmounts
        (days.filter (· ≤ d))) (days.drop 1) := by
  obtain ⟨t, ht⟩ : ∃ t, ofList .rounding .january30 .february1 turnOfMonthAmounts = .ok t := ⟨_, rfl⟩
  obtain ⟨w, hw⟩ : ∃ w, (RunningBalance.start t).after .rounding 1 = .ok w := by
    cases ht
    exact ⟨_, rfl⟩
  obtain ⟨days, _, _, hdays⟩ :=
    (walk_of_ofList .january30 .february1 turnOfMonthAmounts).2.2 t ht
  obtain ⟨hlength, hleft, hwalks, _⟩ := hdays 1 w hw
  have hspan : Date.february1.dayNumber - Date.january30.dayNumber = 2 := by decide
  refine ⟨t, w, ht, hw, by omega, days, ?_, hwalks⟩
  rw [List.length_drop] at hleft
  omega

end DailyTotals

end Daybook
