import Daybook.Proofs.Report.Daily
import Daybook.Proofs.Report.Pruning

/-!
# Amounts that cancel

Amounts `Cancel` if they come to zero when they are added one by one to any zero. Where amounts that cancel
go into a tally that vanishes, on one date, the tally vanishes again (`Tally.Vanishes.collect`): everywhere
a run of additions is made that begins and ends with zero. What is concluded from such a tally is zero
(`Tally.Vanishes.conclude`).

All this is about additions that may round: what is rounded off one way while amounts are added is rounded
the same way in every run from a zero on.
-/

namespace Daybook

open Decimal (Alike)

/-! ### Runs of additions -/

namespace Decimal

variable {a a' b t : Decimal} {as bs : List Decimal}

lemma alike_of_mul_one (h : a.mul one = .ok b) : a.Alike b := by
  by_cases ha : a.isZero = true
  · simp only [mul, ha, Bool.true_or, if_true, Except.ok.injEq] at h
    exact .inr ⟨ha, h ▸ rfl⟩
  · -- a number that is not zero is rounded to itself
    left
    have nonzero : a.mantissa ≠ 0 := by simpa [isZero] using ha
    have itself : of? a.mantissa a.scale = some a := by
      obtain ⟨m, s, z, hm, hs, hz⟩ := a
      obtain rfl : z = false := by
        by_contra hne
        exact nonzero (hz (by simpa using hne))
      simp [of?, hm, hs]
    have near : ¬ maxScale + 19 < a.scale := by
      have := a.scale_le
      omega
    simpa [mul, one, isZero, nonzero, near, fit?_of_of? itself, withSign_of_ne_zero nonzero] using h

/-- Runs of like amounts from like starts on are alike. -/
lemma Alike.foldlM (ha : a.Alike a') (h : List.Forall₂ Alike as bs)
    (ht : as.foldlM Arithmetic.rounding.add a = .ok t) :
    ∃ t', bs.foldlM Arithmetic.rounding.add a' = .ok t' ∧ t.Alike t' := by
  induction h generalizing a a' with
  | nil =>
    cases ht
    exact ⟨a', rfl, ha⟩
  | cons hx _ ih =>
    rw [List.foldlM_cons, bind_eq_ok] at ht
    obtain ⟨s, hs, ht⟩ := ht
    obtain ⟨s', hs', halike⟩ := ha.add hx hs
    obtain ⟨t', ht', h⟩ := ih halike ht
    exact ⟨t', by rw [List.foldlM_cons, show Arithmetic.rounding.add _ _ = _ from hs', ok_bind, ht'], h⟩

/-- Added to any zero, the amounts come to zero. -/
def Cancel (as : List Decimal) : Prop :=
  ∀ a, a.isZero = true → ∃ t, as.foldlM Arithmetic.rounding.add a = .ok t ∧ t.isZero = true

lemma isZero_of_alike (h : a.Alike b) (ha : a.isZero = true) : b.isZero = true := by
  rw [isZero_iff] at ha ⊢
  rw [← h.value_eq, ha]

/-- So do amounts like those that come to zero from the zero without places on. -/
lemma cancel_of_sum (hsum : Arithmetic.rounding.sum as = .ok t) (ht : t.isZero = true)
    (h : List.Forall₂ Alike as bs) : Cancel bs := by
  intro a ha
  obtain ⟨t', ht', halike⟩ := Alike.foldlM (.inr ⟨rfl, ha⟩) h hsum
  exact ⟨t', ht', isZero_of_alike halike ht⟩

/-- Zeros cancel. -/
lemma cancel_of_zeros (h : ∀ a ∈ as, a.isZero = true) : Cancel as := by
  induction as with
  | nil => exact fun a ha => ⟨a, rfl, ha⟩
  | cons a as ih =>
    obtain ⟨hzero, h⟩ := List.forall_mem_cons.1 h
    intro s hs
    rw [List.foldlM_cons, show Arithmetic.rounding.add s a = .ok a from add_of_isZero_left hs]
    exact ih h a hzero

end Decimal

open Decimal (Cancel)

/-- Steps that add to one place of a state run as the additions do. -/
lemma foldlM_place {σ : Type} {step : σ → Decimal → Except Overflow σ} (place : Decimal → σ)
    (h : ∀ b a, step (place b) a = place <$> Arithmetic.rounding.add b a) (as : List Decimal)
    (b : Decimal) : as.foldlM step (place b) = place <$> as.foldlM Arithmetic.rounding.add b := by
  induction as generalizing b with
  | nil => rfl
  | cons a as ih =>
    rw [List.foldlM_cons, List.foldlM_cons, h]
    cases Arithmetic.rounding.add b a with
    | error o => rfl
    | ok c => exact ih c

/-! ### Totals by day -/

namespace DailyTotals

variable {A : Arithmetic} {date : Date} {amount b : Decimal} {before later : List (Date × Decimal)}
  {changes : List (Date × Decimal)} {t : DailyTotals}

/-- The change of a day is found behind those of earlier days. -/
lemma addChange_place (h : ∀ c ∈ before, c.1 < date) :
    addChange A date amount (before ++ (date, b) :: later)
      = (fun b => before ++ (date, b) :: later) <$> A.add b amount := by
  induction before with
  | nil =>
    rw [List.nil_append, addChange, if_neg (Date.lt_irrefl date), if_pos rfl]
    cases A.add b amount <;> rfl
  | cons c before ih =>
    obtain ⟨hc, h⟩ := List.forall_mem_cons.1 h
    rw [List.cons_append, addChange, if_pos hc, ih h]
    cases A.add b amount <;> rfl

/-- A change goes to the place of its day, where there is an amount already or zero is put first. -/
lemma exists_place (A : Arithmetic) (date : Date) (changes : List (Date × Decimal)) :
    ∃ before later b, (∀ c ∈ before, c.1 < date) ∧ (b = .zero ∨ (date, b) ∈ changes) ∧
      (∀ c ∈ before ++ later, c ∈ changes) ∧ ∀ amount, addChange A date amount changes
        = (fun b => before ++ (date, b) :: later) <$> A.add b amount := by
  induction changes with
  | nil =>
    refine ⟨[], [], .zero, List.forall_mem_nil _, .inl rfl, fun _ => id, fun amount => ?_⟩
    rw [addChange]
    cases A.add .zero amount <;> rfl
  | cons c changes ih =>
    obtain ⟨day, total⟩ := c
    by_cases hlt : day < date
    · -- behind this day: the place is found among the later ones
      obtain ⟨before, later, b, hbefore, hb, hothers, hplace⟩ := ih
      refine ⟨(day, total) :: before, later, b, List.forall_mem_cons.2 ⟨hlt, hbefore⟩,
        hb.imp_right (List.mem_cons_of_mem _), List.forall_mem_cons.2 ⟨List.mem_cons_self,
        fun c hc => List.mem_cons_of_mem _ (hothers c hc)⟩, fun amount => ?_⟩
      rw [addChange, if_pos hlt, hplace]
      cases A.add b amount <;> rfl
    · by_cases heq : day = date
      · -- on this day: its change is the place
        refine ⟨[], changes, total, List.forall_mem_nil _, .inr (heq ▸ List.mem_cons_self),
          fun _ => List.mem_cons_of_mem _, fun amount => ?_⟩
        rw [addChange, if_neg hlt, if_pos heq, heq]
        cases A.add total amount <;> rfl
      · -- before this day: there is a new place in front
        refine ⟨[], (day, total) :: changes, .zero, List.forall_mem_nil _, .inl rfl, fun _ => id,
          fun amount => ?_⟩
        rw [addChange, if_neg hlt, if_neg heq]
        cases A.add .zero amount <;> rfl

/-- Nothing is carried in, and on no day there is a change. -/
structure Vanishes (t : DailyTotals) : Prop where
  span : t.first ≤ t.last
  carryIn : t.carryIn.isZero = true
  changes : ∀ c ∈ t.changes, c.2.isZero = true

/-- Amounts of one day that cancel leave the change of the day zero. -/
lemma Vanishes.addAll_within (h : t.Vanishes) {as : List Decimal} (hc : Cancel as)
    (hfirst : t.first ≤ date) (hlast : date ≤ t.last) :
    ∃ t', as.foldlM (fun t a => t.add .rounding (some date) a) t = .ok t' ∧ t'.Vanishes := by
  cases as with
  | nil => exact ⟨t, rfl, h⟩
  | cons a as =>
    obtain ⟨before, later, b, hbefore, hb, hothers, hplace⟩ := exists_place .rounding date t.changes
    let place := fun b => { t with changes := before ++ (date, b) :: later }
    -- the first amount may make the place, the next ones find it
    have first : t.add .rounding (some date) a = place <$> Arithmetic.rounding.add b a := by
      rw [add_eq_change hfirst hlast, hplace]
      cases Arithmetic.rounding.add b a <;> rfl
    have next : ∀ b a, (place b).add .rounding (some date) a
        = place <$> Arithmetic.rounding.add b a := by
      intro b a
      rw [add_eq_change (t := place b) hfirst hlast, addChange_place hbefore]
      cases Arithmetic.rounding.add b a <;> rfl
    -- a new place holds zero, and so does any other one
    have start : b.isZero = true := by
      rcases hb with rfl | hb
      · rfl
      · exact h.changes _ hb
    obtain ⟨c, hc, hzero⟩ := hc b start
    refine ⟨place c, ?_, h.span, h.carryIn, ?_⟩
    · rw [List.foldlM_cons] at hc ⊢
      obtain ⟨b', hb', hc⟩ := bind_eq_ok.1 hc
      rw [first, hb', map_ok, ok_bind, foldlM_place place next, hc, map_ok]
    · intro x hx
      rcases List.mem_append.1 hx with hx | hx
      · exact h.changes x (hothers x (List.mem_append_left _ hx))
      · rcases List.mem_cons.1 hx with rfl | hx
        · exact hzero
        · exact h.changes x (hothers x (List.mem_append_right _ hx))

/-- Amounts of one date that cancel leave no balance. -/
lemma Vanishes.addAll (h : t.Vanishes) {as : List Decimal} (hc : Cancel as)
    (date? : Option Date) :
    ∃ t', as.foldlM (fun t a => t.add .rounding date? a) t = .ok t' ∧ t'.Vanishes := by
  by_cases hbefore : beforeDay t.first date? = true
  · -- before the span: carried in
    obtain ⟨c, hc, hzero⟩ := hc t.carryIn h.carryIn
    let place := fun c => { t with carryIn := c }
    have next : ∀ b a, (place b).add .rounding date? a = place <$> Arithmetic.rounding.add b a :=
      fun b a => add_eq_carry (t := place b) h.span hbefore
    refine ⟨place c, ?_, h.span, hzero, h.changes⟩
    rw [show t = place t.carryIn from rfl, foldlM_place place next, hc, map_ok]
  · obtain ⟨date, rfl⟩ : ∃ date, date? = some date :=
      Option.ne_none_iff_exists'.1 fun hnone => hbefore (by rw [hnone]; rfl)
    have hfirst : t.first ≤ date := Date.not_lt.1 fun hlt => hbefore (by simpa [beforeDay])
    by_cases hlast : t.last < date
    · -- after the span: left out
      refine ⟨t, ?_, h⟩
      clear hc
      induction as with
      | nil => rfl
      | cons a as ih => rw [List.foldlM_cons, add_eq_self hlast, ok_bind, ih]
    · exact h.addAll_within hc hfirst (Date.not_lt.1 hlast)

/-- The balance in the end is zero. -/
lemma Vanishes.total {total : Decimal} (h : t.Vanishes) (ht : t.total .rounding = .ok total) :
    total.isZero = true := by
  have zeros : Cancel (t.changes.map (·.2)) := by
    refine Decimal.cancel_of_zeros fun a ha => ?_
    obtain ⟨c, hc, rfl⟩ := List.mem_map.1 ha
    exact h.changes c hc
  obtain ⟨s, hs, hzero⟩ := zeros .zero rfl
  obtain ⟨s', hs', ht⟩ := bind_eq_ok.1 ht
  obtain rfl := Except.ok.inj (hs.symm.trans hs')
  rw [show Arithmetic.rounding.add t.carryIn s = .ok s from Decimal.add_of_isZero_left h.carryIn] at ht
  cases ht
  exact hzero

/-- On the way through the days the balance stays zero. -/
lemma Vanishes.take (h : t.Vanishes) {count : ℕ} {next? : Option Date} {balance : Decimal}
    {points : List DayPoint} (hzero : balance.isZero = true)
    (hpoints : (⟨t, next?, balance⟩ : RunningBalance).take .rounding count = .ok points) :
    ∀ p ∈ points, p.balance.isZero = true := by
  induction count generalizing next? balance points with
  | zero =>
    cases hpoints
    exact List.forall_mem_nil _
  | succ count ih =>
    cases next? with
    | none =>
      rw [take_of_none] at hpoints
      cases hpoints
      exact List.forall_mem_nil _
    | some date =>
      -- a day adds zero, or nothing at all
      have after : ∃ b, (⟨t, some date, balance⟩ : RunningBalance).balanceAfter .rounding date = .ok b ∧
          b.isZero = true := by
        unfold RunningBalance.balanceAfter
        cases hchange : t.change? date with
        | none => exact ⟨balance, rfl, hzero⟩
        | some amount =>
          obtain ⟨c, hc, rfl⟩ := Option.map_eq_some_iff.1 hchange
          exact ⟨c.2, Decimal.add_of_isZero_left hzero, h.changes c (List.mem_of_find?_eq_some hc)⟩
      obtain ⟨b, hb, hbzero⟩ := after
      rw [take_of_balanceAfter count hb, map_eq_ok] at hpoints
      obtain ⟨rest, hrest, rfl⟩ := hpoints
      exact List.forall_mem_cons.2 ⟨hbzero, ih hbzero hrest⟩

end DailyTotals

/-- A running balance that is zero from the first to the last day. -/
structure DaySeries.Vanishes (s : DaySeries) : Prop where
  carryIn : s.carryIn.value = 0
  points : ∀ p ∈ s.points, p.balance.value = 0

lemma DailyTotals.Vanishes.series {t : DailyTotals} {s : DaySeries} (h : t.Vanishes)
    (hs : t.series .rounding = .ok s) : s.Vanishes := by
  obtain ⟨points, hpoints, hs⟩ := bind_eq_ok.1 hs
  cases hs
  exact ⟨Decimal.isZero_iff.1 h.carryIn,
    fun p hp => Decimal.isZero_iff.1 (h.take h.carryIn hpoints p hp)⟩

/-! ### Tallies -/

namespace Tally

/-- What has been collected comes to zero, on every day if days are told apart. -/
def Vanishes : Tally → Prop
  | total sum    => sum.isZero = true
  | daily totals => totals.Vanishes

variable {tally : Tally} {days? : Option (Date × Date)} {as : List Decimal} {date? : Option Date}

lemma vanishes_empty (h : ∀ first last, days? = some (first, last) → first ≤ last) :
    (empty days?).Vanishes := by
  cases days? with
  | none => exact rfl
  | some days => exact ⟨h days.1 days.2 rfl, rfl, List.forall_mem_nil _⟩

/-- Amounts of one date that cancel go into a tally that vanishes, and it still does. -/
theorem Vanishes.addAll (h : tally.Vanishes) (hc : Cancel as) (date? : Option Date) :
    ∃ tally', as.foldlM (fun t a => t.add .rounding date? a) tally = .ok tally' ∧
      tally'.Vanishes := by
  cases tally with
  | total sum =>
    obtain ⟨t, ht, hzero⟩ := hc sum h
    refine ⟨total t, ?_, hzero⟩
    have next : ∀ b a, (total b).add .rounding date? a = total <$> Arithmetic.rounding.add b a := by
      intro b a
      rw [add]
      cases Arithmetic.rounding.add b a <;> rfl
    rw [foldlM_place total next, ht, map_ok]
  | daily totals =>
    obtain ⟨t, ht, hvanishes⟩ := DailyTotals.Vanishes.addAll h hc date?
    refine ⟨daily t, ?_, hvanishes⟩
    clear h hc hvanishes
    induction as generalizing totals with
    | nil =>
      cases ht
      rfl
    | cons a as ih =>
      rw [List.foldlM_cons, bind_eq_ok] at ht
      obtain ⟨u, hu, ht⟩ := ht
      rw [List.foldlM_cons, add, hu]
      exact ih u ht

/-- What is concluded from a tally that vanishes is zero. -/
theorem Vanishes.conclude {isLeaf : Bool} {total : Decimal} {series? : Option DaySeries}
    (h : tally.Vanishes) (hc : Bucket.conclude .rounding isLeaf tally = .ok (total, series?)) :
    total.isZero = true ∧ ∀ series, series? = some series → series.Vanishes := by
  cases tally with
  | total sum =>
    cases hc
    exact ⟨h, nofun⟩
  | daily totals =>
    obtain ⟨htotal, hseries⟩ := Bucket.conclude_daily_eq_ok.1 hc
    refine ⟨DailyTotals.Vanishes.total h htotal, ?_⟩
    rcases hseries with ⟨_, rfl⟩ | ⟨_, s, hs, rfl⟩
    · exact nofun
    · rintro _ ⟨⟩
      exact DailyTotals.Vanishes.series h hs

end Tally

end Daybook
