import Daybook.Proofs.Decimal.Lossless
import Daybook.Proofs.Report.Walk

/-!
# The balance of the last day

The total of a span is the balance carried in plus the sum of all changes; the balance that a walk tells for the
last day has the changes added to the balance carried in one after another (`lastBalance_of_series`). The two
are the same sum with the parentheses in other places, so they agree where nothing is rounded, and also where
there is only one way to put the parentheses (`total_eq_lastBalance`). Elsewhere a rounding can come between
them (`twoFifths_rounded_apart`).
-/

namespace Daybook

namespace DailyTotals

variable {A : Arithmetic} {first last d : Date} {days : List Date} {b : Decimal}
  {changes : List (Date × Decimal)} {t : DailyTotals} {adds : List (Option Date × Decimal)}

/-! ### From days to changes -/

/-- Going through days that hold all changes, one meets the changes in their order. -/
lemma filterMap_changeIn (hdays : days.Pairwise (· < ·))
    (ordered : (changes.map (·.1)).Pairwise (· < ·)) (inside : ∀ e ∈ changes.map (·.1), e ∈ days) :
    days.filterMap (changeIn changes) = changes.map (·.2) := by
  induction days generalizing changes with
  | nil =>
    cases changes with
    | nil => rfl
    | cons c changes => cases inside c.1 List.mem_cons_self
  | cons d days ih =>
    obtain ⟨hd, hdays'⟩ := List.pairwise_cons.1 hdays
    -- what comes after the first day is among the others
    have among : ∀ e, d < e → e ∈ d :: days → e ∈ days := by
      intro e hlt he
      rcases List.mem_cons.1 he with rfl | he
      · exact absurd hlt (Date.lt_irrefl e)
      · exact he
    cases changes with
    | nil => simp [changeIn]
    | cons c changes =>
      obtain ⟨day, total⟩ := c
      rw [List.map_cons, List.pairwise_cons] at ordered
      obtain ⟨later, hordered⟩ := ordered
      rw [List.map_cons] at inside
      obtain ⟨hday, hinside⟩ := List.forall_mem_cons.1 inside
      by_cases heq : day = d
      · subst heq
        have rest : days.filterMap (changeIn ((day, total) :: changes))
            = days.filterMap (changeIn changes) := by
          apply List.filterMap_congr
          intro e he
          exact changeIn_cons_of_ne (Date.ne_of_lt (hd e he)) total changes
        rw [List.filterMap_cons_some (changeIn_cons_self day total changes), rest,
          ih hdays' hordered fun e he => among e (later e he) (hinside e he)]
        rfl
      · have hmem : day ∈ days := (List.mem_cons.1 hday).resolve_left heq
        have after : ∀ e ∈ ((day, total) :: changes).map (·.1), d < e := by
          rw [List.map_cons]
          exact List.forall_mem_cons.2 ⟨hd day hmem, fun e he => Date.lt_trans (hd day hmem) (later e he)⟩
        rw [List.filterMap_cons_none (changeIn_of_lt after)]
        apply ih hdays'
        · rw [List.map_cons]
          exact List.pairwise_cons.2 ⟨later, hordered⟩
        · intro e he
          exact among e (after e he) (inside e he)

/-- The balance after a day. -/
def balanceAfterDay (A : Arithmetic) (t : DailyTotals) (b : Decimal) (d : Date) :
    Except Overflow Decimal :=
  match changeIn t.changes d with
  | some change => A.add b change
  | none        => pure b

/-- The balance after all days is the one with all changes. -/
lemma foldlM_balanceAfterDay (hdays : days.Pairwise (· < ·))
    (ordered : (t.changes.map (·.1)).Pairwise (· < ·)) (inside : ∀ e ∈ t.changes.map (·.1), e ∈ days)
    (b : Decimal) :
    days.foldlM (balanceAfterDay A t) b = (t.changes.map (·.2)).foldlM A.add b := by
  rw [← filterMap_changeIn hdays ordered inside, List.foldlM_filterMap]
  congr 1
  funext b d
  rw [balanceAfterDay]
  cases changeIn t.changes d <;> rfl

/-! ### The last point -/

/-- A call gives the balance after the next day. -/
lemma take_succ (A : Arithmetic) (t : DailyTotals) (d : Date) (b : Decimal) (count : ℕ) :
    (⟨t, some d, b⟩ : RunningBalance).take A (count + 1) = balanceAfterDay A t b d >>= fun c =>
      (⟨d, c⟩ :: ·) <$> (⟨t, upToDay t.last d.next?, c⟩ : RunningBalance).take A count := by
  have hstep := RunningBalance.step_of_some (A := A) (w := ⟨t, some d, b⟩) rfl
  rw [RunningBalance.take, hstep, show RunningBalance.balanceAfter A ⟨t, some d, b⟩ d
    = balanceAfterDay A t b d from rfl]
  cases balanceAfterDay A t b d <;> rfl

/-- The points of a walk have the days before it, and the last one has the balance after all of them. -/
lemma lastBalance_of_take {next? : Option Date} {count : ℕ} (hup : Upcoming t.last next? days)
    (hcount : days.length ≤ count) (b : Decimal) :
    SameOutcome (fun points c => points.map (·.date) = days ∧ (points.getLast?.map (·.balance)).getD b = c)
      ((⟨t, next?, b⟩ : RunningBalance).take A count) (days.foldlM (balanceAfterDay A t) b) := by
  induction days generalizing next? count b with
  | nil =>
    obtain rfl : next? = none := hup
    rw [take_of_none]
    exact .ok ⟨rfl, rfl⟩
  | cons d days ih =>
    obtain ⟨count, rfl⟩ := Nat.exists_eq_add_of_lt hcount
    obtain ⟨rfl, hup⟩ := hup
    rw [take_succ, List.foldlM_cons]
    apply SameOutcome.bind_left
    intro c
    rw [map_eq_pure_bind, ← bind_pure (days.foldlM (balanceAfterDay A t) c)]
    refine (ih hup (Nat.le_add_right _ _) c).bind fun points last => ?_
    rintro ⟨hdates, hlast⟩
    apply SameOutcome.ok
    refine ⟨by rw [List.map_cons, hdates], ?_⟩
    rw [List.getLast?_cons, Option.map_some, Option.getD_some, ← hlast]
    exact (Option.getD_map ..).symm

/-- Of days in their order, the latest is the last one. -/
lemma getLast?_of_le (hordered : days.Pairwise (· < ·)) (hd : d ∈ days) (hle : ∀ e ∈ days, e ≤ d) :
    days.getLast? = some d := by
  obtain ⟨before, after, rfl⟩ := List.append_of_mem hd
  cases after with
  | nil => rw [List.getLast?_append, List.getLast?_singleton, Option.some_or]
  | cons e after =>
    have hlt : d < e := (List.pairwise_cons.1 (List.pairwise_append.1 hordered).2.1).1 e List.mem_cons_self
    exact absurd (hle e (by simp)) (Date.not_le.2 hlt)

/-- A series ends with the last day, and there with all changes added to the balance carried in. -/
lemma lastBalance_of_series (h : Collects A first last adds t) (hspan : first ≤ last) :
    SameOutcome (fun series c => ∃ point, series.points.getLast? = some point ∧ point.date = last ∧
      point.balance = c) (t.series A) ((t.changes.map (·.2)).foldlM A.add t.carryIn) := by
  obtain ⟨days, hup, hordered, hmem, _⟩ := exists_upcoming t.first t.last
  have hstart : Upcoming t.last (RunningBalance.start t).next? days := hup
  have hlength : (RunningBalance.start t).length = days.length := by
    apply RunningBalance.length_eq hstart
    intro d hd
    change upToDay t.last (some t.first) = some d at hd
    exact le_of_upToDay hd
  rw [← h.first_eq, ← h.last_eq] at hspan
  -- the last of the days is the last day of the span
  have hlastDay : days.getLast? = some t.last :=
    getLast?_of_le hordered ((hmem t.last).2 ⟨hspan, Date.le_refl t.last⟩) fun e he => ((hmem e).1 he).2
  rw [← foldlM_balanceAfterDay hordered h.ordered fun e he => (hmem e).2 (by
    rw [h.first_eq, h.last_eq]
    exact h.inside e he)]
  rw [DailyTotals.series, ← bind_pure (days.foldlM (balanceAfterDay A t) t.carryIn)]
  refine (lastBalance_of_take hstart hlength.ge t.carryIn).bind fun points c => ?_
  rintro ⟨hdates, hlast⟩
  apply SameOutcome.ok
  rw [← hdates, List.getLast?_map] at hlastDay
  obtain ⟨point, hpoint, hdate⟩ := Option.map_eq_some_iff.1 hlastDay
  rw [hpoint, Option.map_some, Option.getD_some] at hlast
  exact ⟨point, hpoint, hdate.trans h.last_eq, hlast⟩

/-! ### The total -/

/-- The sums of the first changes are numbers of decimals, with the balance carried in and without. -/
def SumsFit (t : DailyTotals) : Prop :=
  ∀ cs, cs <+: t.changes.map (·.2) → Decimal.Representable (cs.map Decimal.value).sum ∧
    Decimal.Representable (t.carryIn.value + (cs.map Decimal.value).sum)

/-- They are if the balance carried in and the changes can be added up in any order. -/
lemma SumsFit.of_addable (h : Addable ((t.carryIn :: t.changes.map (·.2)).map Decimal.value)) :
    t.SumsFit := by
  intro cs hcs
  have hsub : (cs.map Decimal.value).Sublist ((t.changes.map (·.2)).map Decimal.value) :=
    hcs.sublist.map _
  constructor
  · exact h.representable_sum (hsub.cons _)
  · exact h.representable_sum (hsub.cons_cons t.carryIn.value)

/-- The sum from zero on begins with the first number. -/
lemma sum_rounding_cons (x : Decimal) (xs : List Decimal) :
    Arithmetic.rounding.sum (x :: xs) = xs.foldlM Arithmetic.rounding.add x := by
  have hzero : Arithmetic.rounding.add .zero x = .ok x := Decimal.add_of_isZero_left (a := .zero) rfl
  rw [Arithmetic.sum, List.foldlM_cons, hzero, ok_bind]

lemma total_eq_of_sum {s : Decimal} (hs : A.sum (t.changes.map (·.2)) = .ok s) :
    t.total A = A.add t.carryIn s := by
  rw [total, hs, ok_bind]

/-- The two sums agree if nothing is carried in. -/
lemma total_of_isZero (h : t.carryIn.isZero = true) :
    SameOutcome (fun total c => c.value = total.value) (t.total .rounding)
      ((t.changes.map (·.2)).foldlM Arithmetic.rounding.add t.carryIn) := by
  have hadd : ∀ x, Arithmetic.rounding.add t.carryIn x = .ok x := fun x => Decimal.add_of_isZero_left h
  cases hcs : t.changes.map (·.2) with
  | nil =>
    rw [total_eq_of_sum (s := .zero) (by rw [hcs]; rfl), hadd]
    exact .ok (by rw [Decimal.isZero_iff.1 h, Decimal.value_zero])
  | cons x xs =>
    rw [total, hcs, sum_rounding_cons, List.foldlM_cons, hadd, ok_bind]
    cases xs.foldlM Arithmetic.rounding.add x with
    | error o => exact .error o
    | ok s =>
      rw [ok_bind, hadd]
      exact .ok rfl

/-- So they do if at most one day has a change. -/
lemma total_of_length (h : t.changes.length ≤ 1) :
    SameOutcome (fun total c => c.value = total.value) (t.total .rounding)
      ((t.changes.map (·.2)).foldlM Arithmetic.rounding.add t.carryIn) := by
  by_cases hcarry : t.carryIn.isZero = true
  · exact total_of_isZero hcarry
  · cases hchanges : t.changes with
    | nil =>
      have hadd : Arithmetic.rounding.add t.carryIn .zero = .ok t.carryIn :=
        Decimal.add_of_isZero_right (by simpa using hcarry) rfl
      rw [total_eq_of_sum (s := .zero) (by rw [hchanges]; rfl), hadd]
      exact .ok rfl
    | cons c changes =>
      obtain rfl : changes = [] := by simpa [hchanges] using h
      have hsum : Arithmetic.rounding.sum (t.changes.map (·.2)) = .ok c.2 := by
        rw [hchanges]
        exact sum_rounding_cons c.2 []
      rw [total_eq_of_sum hsum, List.map_cons, List.map_nil, List.foldlM_cons]
      cases Arithmetic.rounding.add t.carryIn c.2 with
      | error o => exact .error o
      | ok s => exact .ok rfl

/-- And so they do if the sums on the way to them are exact. -/
lemma total_of_sumsFit (h : t.SumsFit) :
    SameOutcome (fun total c => c.value = total.value) (t.total .rounding)
      ((t.changes.map (·.2)).foldlM Arithmetic.rounding.add t.carryIn) := by
  -- three sums are exact: of the changes, of that with the carry-in, and of all one after another
  obtain ⟨s, hs, hsvalue⟩ := Arithmetic.sum_of_beginnings fun cs hcs => (h cs hcs).1
  obtain ⟨total, htotal, htotalValue⟩ : ∃ total, Arithmetic.rounding.add t.carryIn s = .ok total ∧
      total.value = t.carryIn.value + s.value :=
    Decimal.add_of_representable (hsvalue ▸ (h _ List.prefix_rfl).2)
  obtain ⟨c, hc, hcvalue⟩ : ∃ c, Arithmetic.lossless.sum (t.carryIn :: t.changes.map (·.2)) = .ok c ∧
      c.value = ((t.carryIn :: t.changes.map (·.2)).map Decimal.value).sum := by
    apply Arithmetic.sum_of_beginnings
    intro cs hcs
    rcases List.prefix_cons_iff.1 hcs with rfl | ⟨ds, rfl, hds⟩
    · exact (h [] List.nil_prefix).1
    · exact (h ds hds).2
  have hsum := Arithmetic.sum_confirmed Arithmetic.lossless_refines_rounding _ hs
  have hlast := Arithmetic.sum_confirmed Arithmetic.lossless_refines_rounding _ hc
  rw [sum_rounding_cons] at hlast
  rw [total_eq_of_sum hsum, htotal, hlast]
  apply SameOutcome.ok
  rw [hcvalue, htotalValue, hsvalue]
  rfl

/-- The total and the balance at the last day either both overflow or are the same number, if nothing is carried
in, if at most one day has a change, or if the sums on the way to them are exact. -/
theorem total_eq_lastBalance {first last : Date} {adds : List (Option Date × Decimal)} {t : DailyTotals}
    (hspan : first ≤ last) (ht : ofList .rounding first last adds = .ok t)
    (hsums : t.carryIn.isZero = true ∨ t.changes.length ≤ 1 ∨ t.SumsFit) :
    SameOutcome (fun total series => ∃ point, series.points.getLast? = some point ∧ point.date = last ∧
      point.balance.value = total.value) (t.total .rounding) (t.series .rounding) := by
  have hsame : SameOutcome (fun total c => c.value = total.value) (t.total .rounding)
      ((t.changes.map (·.2)).foldlM Arithmetic.rounding.add t.carryIn) := by
    rcases hsums with hcarry | hlength | hfit
    · exact total_of_isZero hcarry
    · exact total_of_length hlength
    · exact total_of_sumsFit hfit
  refine (hsame.trans (lastBalance_of_series (collects_of_ofList ht) hspan).symm).imp ?_
  rintro total series ⟨c, hvalue, point, hpoint, hdate, rfl⟩
  exact ⟨point, hpoint, hdate, hvalue⟩

/-- At the turn of a month, one is carried in, and two days have changes. -/
theorem turnOfMonth_lastBalance : Date.january30 ≤ Date.february1 ∧ ∃ t total series point,
    ofList .rounding .january30 .february1 turnOfMonthAmounts = .ok t ∧ t.SumsFit ∧
    t.total .rounding = .ok total ∧ t.series .rounding = .ok series ∧
    series.points.getLast? = some point ∧ point.date = .february1 ∧
    point.balance.value = total.value := by
  have hspan : Date.january30 ≤ Date.february1 := by decide
  obtain ⟨t, ht⟩ : ∃ t, ofList .rounding .january30 .february1 turnOfMonthAmounts = .ok t := ⟨_, rfl⟩
  have hfit : t.SumsFit := by
    cases ht
    exact .of_addable (.of_mantissas (s := 1) (by decide) (by decide) (by decide))
  obtain ⟨total, htotal⟩ : ∃ total, t.total .rounding = .ok total := by
    cases ht
    exact ⟨_, rfl⟩
  have hsame := total_eq_lastBalance hspan ht (.inr (.inr hfit))
  rw [htotal] at hsame
  generalize hseries : t.series .rounding = outcome at hsame
  cases hsame with
  | ok hpoint =>
    obtain ⟨point, hlast, hdate, hvalue⟩ := hpoint
    exact ⟨hspan, t, total, _, point, ht, hfit, htotal, hseries, hlast, hdate, hvalue⟩

/-- Five less than the largest amount. -/
def nearLargest : Decimal :=
  ⟨79228162514264337593543950330, 0, false, by decide, Decimal.zero.scale_le, nofun⟩

/-- Two fifths. -/
def twoFifths : Decimal :=
  ⟨4, 1, false, Decimal.four.mantissa_lt, Decimal.tenth.scale_le, Decimal.four.eq_zero_of_minusZero⟩

/-- Added to an amount of 29 digits one by one, two fifths are lost each time; together they are rounded up. -/
theorem twoFifths_rounded_apart : ∃ t total series point,
    ofList .rounding .january30 .february1
      [(none, nearLargest), (some .january30, twoFifths), (some .february1, twoFifths)] = .ok t ∧
    t.total .rounding = .ok total ∧ t.series .rounding = .ok series ∧
    series.points.getLast? = some point ∧ point.balance.value ≠ total.value := by
  refine ⟨_, _, _, _, rfl, rfl, rfl, rfl, ?_⟩
  rw [ne_eq, ← Decimal.sameValue_iff]
  decide +kernel

end DailyTotals

end Daybook
