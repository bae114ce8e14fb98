import Daybook.Proofs.Calendar.DateRange
import Daybook.Proofs.Calendar.Day
import Daybook.Proofs.Report.Posting

/-!
# Totals by day

`DailyTotals.Holds` ties the totals by day to the postings that went into them: the balance carried in is
that of all postings before the first day, and every day has the sum of its own postings. A walk through
the days then tells, at each of them, the sum of all postings up to it (`DailyTotals.Holds.series`).

All sums of parts of the postings are representable here, so nothing is rounded.
-/

namespace Daybook

/-! ### Dates before a day -/

/-- Dates before a day, and no date. -/
def beforeDay (d : Date) : Option Date → Bool
  | some e => decide (e < d)
  | none   => true

namespace DailyTotals

variable {first last date d : Date} {ps : List Posting} {p : Posting} {t : DailyTotals}

/-! ### The change of one day -/

/-- An amount changes the total of its day, or makes a new one in its place; the others stay. -/
lemma exists_addChange {A : Arithmetic} {amount : Decimal} {changes : List (Date × Decimal)}
    {Q : Decimal → Prop} (ordered : (changes.map (·.1)).Pairwise (· < ·))
    (old : ∀ c ∈ changes, c.1 = date → ∃ b, A.add c.2 amount = .ok b ∧ Q b)
    (new : date ∉ changes.map (·.1) → ∃ b, A.add Decimal.zero amount = .ok b ∧ Q b) :
    ∃ changes', addChange A date amount changes = .ok changes' ∧
      (changes'.map (·.1)).Pairwise (· < ·) ∧
      (∀ c ∈ changes', (c.1 = date ∧ Q c.2) ∨ (c.1 ≠ date ∧ c ∈ changes)) ∧
      ∀ d, d ∈ changes'.map (·.1) ↔ d = date ∨ d ∈ changes.map (·.1) := by
  induction changes with
  | nil =>
    obtain ⟨b, hb, hQ⟩ := new (by simp)
    exact ⟨[(date, b)], by simp [addChange, hb], by simp, by simpa using hQ, by simp⟩
  | cons c changes ih =>
    obtain ⟨day, total⟩ := c
    rw [List.map_cons, List.pairwise_cons] at ordered
    obtain ⟨later, ordered⟩ := ordered
    have laterDay : ∀ c ∈ changes, day < c.1 := fun c hc => later c.1 (List.mem_map_of_mem hc)
    obtain ⟨oldHere, oldLater⟩ := List.forall_mem_cons.1 old
    -- the changes are in order: the date comes behind the first day, is that day, or comes before it
    by_cases hlt : day < date
    · -- behind it: the first change stays, and the rest is changed
      obtain ⟨changes', hok, hordered, hmem, hdates⟩ := ih ordered oldLater fun hnew =>
        new (by simpa [Date.ne_of_gt hlt] using hnew)
      refine ⟨(day, total) :: changes', by rw [addChange, if_pos hlt, hok]; rfl, ?_, ?_, ?_⟩
      · rw [List.map_cons, List.pairwise_cons]
        refine ⟨?_, hordered⟩
        intro d hd
        rcases (hdates d).1 hd with rfl | hd
        · exact hlt
        · exact later d hd
      · refine List.forall_mem_cons.2 ⟨.inr ⟨Date.ne_of_lt hlt, by simp⟩, ?_⟩
        intro c hc
        exact (hmem c hc).imp_right fun h => ⟨h.1, List.mem_cons_of_mem _ h.2⟩
      · intro d
        simp only [List.map_cons, List.mem_cons, hdates]
        tauto
    · by_cases heq : day = date
      · -- on that day: its total is added to
        obtain ⟨b, hb, hQ⟩ := oldHere heq
        refine ⟨(day, b) :: changes, by rw [addChange, if_neg hlt, if_pos heq, hb]; rfl,
          ?_, ?_, ?_⟩
        · exact List.pairwise_cons.2 ⟨later, ordered⟩
        · refine List.forall_mem_cons.2 ⟨.inl ⟨heq, hQ⟩, ?_⟩
          intro c hc
          exact .inr ⟨Date.ne_of_gt (heq ▸ laterDay c hc), List.mem_cons_of_mem _ hc⟩
        · intro d
          simp [heq]
      · -- before it: a new total is put in front, since no change has the date
        have hgt : date < day := Date.lt_of_le_of_ne (Date.not_lt.1 hlt) (Ne.symm heq)
        have after : ∀ c ∈ (day, total) :: changes, date < c.1 :=
          List.forall_mem_cons.2 ⟨hgt, fun c hc => Date.lt_trans hgt (laterDay c hc)⟩
        obtain ⟨b, hb, hQ⟩ := new fun hmem => by
          obtain ⟨c, hc, hdate⟩ := List.mem_map.1 hmem
          exact Date.ne_of_gt (after c hc) hdate
        refine ⟨(date, b) :: (day, total) :: changes,
          by rw [addChange, if_neg hlt, if_neg heq, hb]; rfl, ?_, ?_, ?_⟩
        · rw [List.map_cons, List.pairwise_cons]
          refine ⟨?_, List.pairwise_cons.2 ⟨later, ordered⟩⟩
          intro d hd
          obtain ⟨c, hc, rfl⟩ := List.mem_map.1 hd
          exact after c hc
        · refine List.forall_mem_cons.2 ⟨.inl ⟨rfl, hQ⟩, ?_⟩
          intro c hc
          exact .inr ⟨Date.ne_of_gt (after c hc), hc⟩
        · intro d
          simp

/-! ### One more amount -/

lemma add_eq_carry {A : Arithmetic} {date? : Option Date} {amount : Decimal} (hspan : t.first ≤ t.last)
    (h : beforeDay t.first date? = true) :
    t.add A date? amount = (fun c => { t with carryIn := c }) <$> A.add t.carryIn amount := by
  cases date? with
  | none => rfl
  | some date =>
    have hfirst : date < t.first := by simpa [beforeDay] using h
    have hlast : ¬ t.last < date := Date.not_lt.2 (Date.le_trans (Date.le_of_lt hfirst) hspan)
    simp only [add, if_neg hlast, if_neg (Date.not_le.2 hfirst)]
    rfl

lemma add_eq_self {A : Arithmetic} {amount : Decimal} (h : t.last < date) :
    t.add A (some date) amount = .ok t :=
  if_pos h

lemma add_eq_change {A : Arithmetic} {amount : Decimal} (hfirst : t.first ≤ date)
    (hlast : date ≤ t.last) : t.add A (some date) amount
      = (fun changes => { t with changes := changes }) <$> addChange A date amount t.changes := by
  simp only [add, if_neg (Date.not_lt.2 hlast), if_pos hfirst]
  rfl

/-! ### Totals of postings -/

/-- The totals are those of postings: what is carried in, and one total for each day with postings. -/
structure Holds (first last : Date) (ps : List Posting) (t : DailyTotals) : Prop where
  first_eq : t.first = first
  last_eq : t.last = last
  carryIn_eq : t.carryIn.value = Posting.sumWhere (beforeDay first ·.date?) ps
  ordered : (t.changes.map (·.1)).Pairwise (· < ·)
  inside : ∀ c ∈ t.changes, first ≤ c.1 ∧ c.1 ≤ last
  change_eq : ∀ c ∈ t.changes, c.2.value = Posting.sumWhere (·.date? == some c.1) ps
  complete : ∀ p ∈ ps, ∀ d, p.date? = some d → first ≤ d → d ≤ last → d ∈ t.changes.map (·.1)

lemma holds_empty (first last : Date) : Holds first last [] (empty first last) where
  first_eq := rfl
  last_eq := rfl
  carryIn_eq := by simp [empty]
  ordered := by simp [empty]
  inside := by simp [empty]
  change_eq := by simp [empty]
  complete := by simp

/-- A posting without a day in the span leaves the days as they are. -/
lemma Holds.changes_of_outside (h : Holds first last ps t)
    (outside : ∀ d, p.date? = some d → first ≤ d → ¬ d ≤ last) {carryIn : Decimal}
    (hcarry : carryIn.value = Posting.sumWhere (beforeDay first ·.date?) (ps ++ [p])) :
    Holds first last (ps ++ [p]) { t with carryIn := carryIn } where
  first_eq := h.first_eq
  last_eq := h.last_eq
  carryIn_eq := hcarry
  ordered := h.ordered
  inside := h.inside
  change_eq c hc := by
    have hne : p.date? ≠ some c.1 := fun hd =>
      outside c.1 hd (h.inside c hc).1 (h.inside c hc).2
    rw [Posting.sumWhere_concat, h.change_eq c hc]
    simp [hne]
  complete q hq d hd hfirst hlast := by
    rcases List.mem_append.1 hq with hq | hq
    · exact h.complete q hq d hd hfirst hlast
    · obtain rfl := List.mem_singleton.1 hq
      exact absurd hlast (outside d hd hfirst)

/-- A posting of a day in the span changes the total of that day, if it can be added to it. -/
lemma Holds.exists_add_within {A : Arithmetic} (h : Holds first last ps t)
    (hdate : p.date? = some date) (hfirst : first ≤ date) (hlast : date ≤ last)
    (hzero : A.add .zero p.amount = .ok p.amount)
    (hday : ∀ c ∈ t.changes, c.1 = date →
      ∃ b, A.add c.2 p.amount = .ok b ∧ b.value = c.2.value + p.amount.value) :
    ∃ t', t.add A (some date) p.amount = .ok t' ∧ Holds first last (ps ++ [p]) t' := by
  have total : Posting.sumWhere (·.date? == some date) (ps ++ [p])
      = Posting.sumWhere (·.date? == some date) ps + p.amount.value := by
    rw [Posting.sumWhere_concat, hdate]
    simp
  -- the sum of the day grows by the amount, whether it has a total yet or not
  have old : ∀ c ∈ t.changes, c.1 = date → ∃ b, A.add c.2 p.amount = .ok b ∧
      b.value = Posting.sumWhere (·.date? == some date) (ps ++ [p]) := by
    rintro c hc rfl
    obtain ⟨b, hb, hv⟩ := hday c hc rfl
    exact ⟨b, hb, by rw [hv, total, h.change_eq c hc]⟩
  -- a day without total has no postings, so its sum begins with this one
  have new : date ∉ t.changes.map (·.1) → ∃ b, A.add .zero p.amount = .ok b ∧
      b.value = Posting.sumWhere (·.date? == some date) (ps ++ [p]) := by
    intro hnew
    refine ⟨p.amount, hzero, ?_⟩
    rw [total, Posting.sumWhere_eq_zero, zero_add]
    intro q hq
    rw [beq_eq_false_iff_ne]
    exact fun hqdate => hnew (h.complete q hq date hqdate hfirst hlast)
  obtain ⟨changes, hok, hordered, hmem, hdates⟩ := exists_addChange h.ordered old new
  refine ⟨{ t with changes := changes }, ?_, h.first_eq, h.last_eq, ?_, hordered, ?_, ?_, ?_⟩
  · rw [add_eq_change (by rwa [h.first_eq]) (by rwa [h.last_eq])]
    exact map_eq_ok.2 ⟨changes, hok, rfl⟩
  · rw [Posting.sumWhere_concat, hdate]
    simpa [beforeDay, Date.not_lt.2 hfirst] using h.carryIn_eq
  · intro c hc
    rcases hmem c hc with ⟨hcdate, _⟩ | ⟨_, hc⟩
    · rw [hcdate]
      exact ⟨hfirst, hlast⟩
    · exact h.inside c hc
  · intro c hc
    rcases hmem c hc with ⟨hcdate, hv⟩ | ⟨hne, hc⟩
    · rw [hcdate, hv]
    · rw [h.change_eq c hc, Posting.sumWhere_concat, hdate, if_neg, add_zero]
      simpa using Ne.symm hne
  · intro q hq d hd hdfirst hdlast
    rw [hdates]
    rcases List.mem_append.1 hq with hq | hq
    · exact .inr (h.complete q hq d hd hdfirst hdlast)
    · obtain rfl := List.mem_singleton.1 hq
      exact .inl (Option.some.inj (hd.symm.trans hdate))

/-- One more posting goes in, if it can be added to what it changes. -/
theorem Holds.exists_add {A : Arithmetic} (h : Holds first last ps t) (hspan : first ≤ last)
    (hzero : A.add .zero p.amount = .ok p.amount)
    (hcarry : beforeDay first p.date? = true →
      ∃ c, A.add t.carryIn p.amount = .ok c ∧ c.value = t.carryIn.value + p.amount.value)
    (hday : ∀ c ∈ t.changes, p.date? = some c.1 →
      ∃ b, A.add c.2 p.amount = .ok b ∧ b.value = c.2.value + p.amount.value) :
    ∃ t', t.add A p.date? p.amount = .ok t' ∧ Holds first last (ps ++ [p]) t' := by
  by_cases hbefore : beforeDay first p.date? = true
  · -- before the span: carried in
    obtain ⟨c, hc, hv⟩ := hcarry hbefore
    refine ⟨{ t with carryIn := c }, ?_, h.changes_of_outside (fun d hd hd' => ?_) ?_⟩
    · rw [add_eq_carry (by rw [h.first_eq, h.last_eq]; exact hspan) (by rwa [h.first_eq])]
      exact map_eq_ok.2 ⟨c, hc, rfl⟩
    · rw [hd] at hbefore
      exact absurd hd' (Date.not_le.2 (by simpa [beforeDay] using hbefore))
    · rw [Posting.sumWhere_concat, if_pos hbefore, ← h.carryIn_eq, hv]
  · obtain ⟨date, hdate⟩ : ∃ date, p.date? = some date :=
      Option.ne_none_iff_exists'.1 fun hnone => hbefore (by rw [hnone]; rfl)
    have hfirst : first ≤ date := Date.not_lt.1 fun hlt => hbefore (by simpa [hdate, beforeDay])
    rw [hdate]
    by_cases hlast : last < date
    · -- after the span: left out
      refine ⟨t, add_eq_self (by rwa [h.last_eq]), h.changes_of_outside (fun d hd _ => ?_) ?_⟩
      · obtain rfl : date = d := Option.some.inj (hdate.symm.trans hd)
        exact Date.not_le.2 hlast
      · rw [Posting.sumWhere_concat, if_neg hbefore, add_zero, h.carryIn_eq]
    · -- within the span
      exact h.exists_add_within hdate hfirst (Date.not_lt.1 hlast) hzero
        fun c hc hcdate => hday c hc (hdate.trans (congrArg some hcdate.symm))

/-- It can be if all amounts can be added up. -/
theorem Holds.add (h : Holds first last ps t) (hspan : first ≤ last)
    (hadd : Addable ((ps ++ [p]).map (·.amount.value))) :
    ∃ t', t.add .rounding p.date? p.amount = .ok t' ∧ Holds first last (ps ++ [p]) t' := by
  have representable := Posting.representable_sumWhere hadd
  have hzero : Arithmetic.rounding.add .zero p.amount = .ok p.amount :=
    Decimal.add_of_isZero_left (a := .zero) rfl
  refine h.exists_add hspan hzero (fun hbefore => ?_) fun c hc hdate => ?_
  · have hsum := representable (beforeDay first ·.date?)
    rw [Posting.sumWhere_concat, if_pos hbefore, ← h.carryIn_eq] at hsum
    exact Decimal.add_of_representable hsum
  · have hsum := representable (·.date? == some c.1)
    rw [Posting.sumWhere_concat, if_pos (by simpa using hdate), ← h.change_eq c hc] at hsum
    exact Decimal.add_of_representable hsum

/-- Postings that can be added up go into totals by day. -/
theorem exists_collect (hspan : first ≤ last) (hadd : Addable (ps.map (·.amount.value))) :
    ∃ t, Tally.collect .rounding (some (first, last)) ps = .ok (.daily t) ∧
      Holds first last ps t := by
  induction ps using List.reverseRecOn with
  | nil => exact ⟨empty first last, rfl, holds_empty first last⟩
  | append_singleton ps p ih =>
    obtain ⟨t, ht, hholds⟩ := ih (hadd.of_sublist (by simp))
    obtain ⟨t', ht', hholds'⟩ := hholds.add hspan hadd
    refine ⟨t', ?_, hholds'⟩
    rw [Tally.collect_concat, ht, ok_bind, Tally.add, ht', ok_bind, pure_eq_ok]

/-! ### Balances -/

lemma Holds.nodup_dates (h : Holds first last ps t) : (t.changes.map (·.1)).Nodup :=
  h.ordered.imp Date.ne_of_lt

/-- The days of a beginning of the changes make up a set of dates. -/
lemma Holds.sum_changes (h : Holds first last ps t) {cs : List (Date × Decimal)}
    (hcs : cs <+: t.changes) : (cs.map (·.2.value)).sum
      = Posting.sumWhere (fun p => p.date?.any (· ∈ cs.map (·.1))) ps := by
  rw [← Posting.sum_sumWhere (·.date?) (h.nodup_dates.sublist (hcs.sublist.map _)), List.map_map]
  congr 1
  apply List.map_congr_left
  intro c hc
  exact h.change_eq c (hcs.subset hc)

/-- What came before the span and what came on its days make up what came up to its last day. -/
lemma Holds.sumWhere_span (h : Holds first last ps t) (hspan : first ≤ last) :
    Posting.sumWhere (beforeDay first ·.date?) ps
        + Posting.sumWhere (fun p => p.date?.any (· ∈ t.changes.map (·.1))) ps
      = Posting.sumWhere ((DateRange.upTo last).withUndated.contains ·.date?) ps := by
  apply Posting.sumWhere_add
  · -- a posting is up to the last day if it is before the span or on a day of it
    intro p hp
    cases hdate : p.date? with
    | none => rfl
    | some d =>
      rw [DateRange.contains_until_some, beforeDay, Option.any_some, ← Bool.decide_or,
        decide_eq_decide]
      constructor
      · intro hlast
        by_cases hfirst : first ≤ d
        · exact .inr (h.complete p hp d hdate hfirst hlast)
        · exact .inl (Date.not_le.1 hfirst)
      · rintro (hfirst | hmem)
        · exact Date.le_trans (Date.le_of_lt hfirst) hspan
        · obtain ⟨c, hc, rfl⟩ := List.mem_map.1 hmem
          exact (h.inside c hc).2
  · -- and never both
    intro p _ hbefore
    cases hdate : p.date? with
    | none => rfl
    | some d =>
      rw [hdate] at hbefore
      rw [Option.any_some, decide_eq_false_iff_not]
      intro hmem
      obtain ⟨c, hc, rfl⟩ := List.mem_map.1 hmem
      exact Date.not_lt.2 (h.inside c hc).1 (by simpa [beforeDay] using hbefore)

/-- The balance at the end of the span is the sum of all postings up to its last day. -/
theorem Holds.total (h : Holds first last ps t) (hspan : first ≤ last)
    (hadd : Addable (ps.map (·.amount.value))) : ∃ a, t.total .rounding = .ok a ∧
      a.value = Posting.sumWhere ((DateRange.upTo last).withUndated.contains ·.date?) ps := by
  have representable := Posting.representable_sumWhere hadd
  -- adding up from left to right, each step is the sum of some days, which is representable
  have beginnings : ∀ ys, ys <+: t.changes.map (·.2) →
      Decimal.Representable (ys.map Decimal.value).sum := by
    intro ys hys
    obtain ⟨cs, hcs, rfl⟩ := List.prefix_map_iff.1 hys
    rw [List.map_map]
    exact h.sum_changes hcs ▸ representable _
  obtain ⟨s, hs, hv⟩ := Arithmetic.sum_of_beginnings beginnings
  have hchanges : s.value = Posting.sumWhere (fun p => p.date?.any (· ∈ t.changes.map (·.1))) ps := by
    rw [hv, List.map_map]
    exact h.sum_changes List.prefix_rfl
  have hwhole := h.sumWhere_span hspan
  rw [← h.carryIn_eq, ← hchanges] at hwhole
  obtain ⟨a, ha, hav⟩ := Decimal.add_of_representable (hwhole ▸ representable _)
  refine ⟨a, ?_, hav.trans hwhole⟩
  rw [DailyTotals.total, Arithmetic.sum_confirmed Arithmetic.lossless_refines_rounding _ hs, ok_bind]
  exact ha

/-- What came before a day, and the day itself, is what came up to it. -/
lemma sumWhere_before_add (d : Date) (ps : List Posting) :
    Posting.sumWhere (beforeDay d ·.date?) ps + Posting.sumWhere (·.date? == some d) ps
      = Posting.sumWhere ((DateRange.upTo d).withUndated.contains ·.date?) ps := by
  refine Posting.sumWhere_add (fun p _ => ?_) fun p _ hbefore => ?_
  · cases p.date? with
    | none => rfl
    | some e =>
      rw [DateRange.contains_until_some, beforeDay, Bool.eq_iff_iff]
      simp [Date.le_iff_lt_or_eq]
  · cases hdate : p.date? with
    | none => rfl
    | some e =>
      rw [hdate] at hbefore
      simpa using Date.ne_of_lt (by simpa [beforeDay] using hbefore)

/-- What came before the next day is what came up to a day. -/
lemma sumWhere_before_next {n : Date} (h : d.next? = some n) (ps : List Posting) :
    Posting.sumWhere (beforeDay n ·.date?) ps
      = Posting.sumWhere ((DateRange.upTo d).withUndated.contains ·.date?) ps := by
  apply Posting.sumWhere_congr
  intro p _
  cases p.date? with
  | none => rfl
  | some e =>
    rw [DateRange.contains_until_some, beforeDay]
    exact decide_eq_decide.2 (Date.lt_next_iff h)

/-! ### Going through the days -/

/-- The points go through the days from one to another, and tell at each the sum of all postings up to
it. -/
structure Tells (start last : Date) (ps : List Posting) (points : List DayPoint) : Prop where
  ordered : (points.map (·.date)).Pairwise (· < ·)
  mem_iff : ∀ d, d ∈ points.map (·.date) ↔ start ≤ d ∧ d ≤ last
  balance_eq : ∀ point ∈ points,
    point.balance.value = Posting.sumWhere ((DateRange.upTo point.date).withUndated.contains ·.date?) ps

/-- The last day tells the sum of all postings up to it. -/
lemma Tells.single {balance : Decimal} (hbalance : balance.value
      = Posting.sumWhere ((DateRange.upTo last).withUndated.contains ·.date?) ps) :
    Tells last last ps [⟨last, balance⟩] where
  ordered := by simp
  mem_iff d := by
    simp only [List.map_cons, List.map_nil, List.mem_singleton]
    exact ⟨fun hd => hd ▸ ⟨Date.le_refl _, Date.le_refl _⟩, fun hd => Date.le_antisymm hd.2 hd.1⟩
  balance_eq := by simpa using hbalance

/-- So does a day before the days that are told. -/
lemma Tells.cons {n : Date} {points : List DayPoint} (h : Tells n last ps points)
    (hnext : date.next? = some n) (hn : n ≤ last) {balance : Decimal} (hbalance : balance.value
      = Posting.sumWhere ((DateRange.upTo date).withUndated.contains ·.date?) ps) :
    Tells date last ps (⟨date, balance⟩ :: points) where
  ordered := by
    have hlt : date < n := (Date.lt_next_iff hnext).2 (Date.le_refl date)
    rw [List.map_cons, List.pairwise_cons]
    exact ⟨fun d hd => Date.lt_of_lt_of_le hlt ((h.mem_iff d).1 hd).1, h.ordered⟩
  mem_iff d := by
    have hlt : date < n := (Date.lt_next_iff hnext).2 (Date.le_refl date)
    rw [List.map_cons, List.mem_cons, h.mem_iff]
    constructor
    · rintro (rfl | ⟨hnd, hd⟩)
      · exact ⟨Date.le_refl _, Date.le_trans (Date.le_of_lt hlt) hn⟩
      · exact ⟨Date.le_trans (Date.le_of_lt hlt) hnd, hd⟩
    · rintro ⟨hdate, hd⟩
      by_cases hnd : n ≤ d
      · exact .inr ⟨hnd, hd⟩
      · exact .inl (Date.le_antisymm ((Date.lt_next_iff hnext).1 (Date.not_le.1 hnd)) hdate)
  balance_eq := List.forall_mem_cons.2 ⟨hbalance, h.balance_eq⟩

/-- What is found for a day in the span is the sum of its postings. -/
lemma Holds.value_change? (h : Holds first last ps t) (hfirst : first ≤ date) (hlast : date ≤ last) :
    ((t.change? date).map Decimal.value).getD 0 = Posting.sumWhere (·.date? == some date) ps := by
  cases hchange : t.change? date with
  | none =>
    rw [Option.map_none, Option.getD_none, Posting.sumWhere_eq_zero]
    intro p hp
    rw [beq_eq_false_iff_ne]
    intro hdate
    obtain ⟨c, hc, hcdate⟩ := List.mem_map.1 (h.complete p hp date hdate hfirst hlast)
    simp only [change?, Option.map_eq_none_iff, List.find?_eq_none, beq_iff_eq] at hchange
    exact hchange c hc hcdate
  | some amount =>
    obtain ⟨c, hc, rfl⟩ := Option.map_eq_some_iff.1 hchange
    have hcdate : c.1 = date := by simpa using List.find?_some hc
    rw [← hcdate, ← h.change_eq c (List.mem_of_find?_eq_some hc)]
    rfl

lemma Holds.balanceAfter (h : Holds first last ps t) (hadd : Addable (ps.map (·.amount.value)))
    (hfirst : first ≤ date) (hlast : date ≤ last) {balance : Decimal} (next? : Option Date)
    (hbalance : balance.value = Posting.sumWhere (beforeDay date ·.date?) ps) : ∃ b,
      (⟨t, next?, balance⟩ : RunningBalance).balanceAfter .rounding date = .ok b ∧
      b.value = Posting.sumWhere ((DateRange.upTo date).withUndated.contains ·.date?) ps := by
  have representable := Posting.representable_sumWhere hadd
    ((DateRange.upTo date).withUndated.contains ·.date?)
  have hchange := h.value_change? hfirst hlast
  rw [← sumWhere_before_add, ← hbalance, ← hchange] at representable ⊢
  unfold RunningBalance.balanceAfter
  cases hfound : t.change? date with
  | none => exact ⟨balance, rfl, (add_zero _).symm⟩
  | some amount =>
    rw [hfound] at representable
    exact Decimal.add_of_representable representable

lemma take_of_balanceAfter {A : Arithmetic} {balance b : Decimal} (count : ℕ)
    (h : (⟨t, some date, balance⟩ : RunningBalance).balanceAfter A date = .ok b) :
    (⟨t, some date, balance⟩ : RunningBalance).take A (count + 1) = (⟨date, b⟩ :: ·) <$>
      (⟨t, upToDay t.last date.next?, b⟩ : RunningBalance).take A count := by
  simp only [RunningBalance.take, RunningBalance.step, h, ok_bind, pure_eq_ok]
  rfl

lemma take_of_none {A : Arithmetic} (balance : Decimal) (count : ℕ) :
    (⟨t, none, balance⟩ : RunningBalance).take A count = .ok [] := by
  cases count <;> rfl

/-- After a day of a span comes another one, or the span is over. -/
lemma upToDay_next? (last date : Date) :
    (upToDay last date.next? = none ∧ last ≤ date) ∨
    ∃ n, date.next? = some n ∧ n ≤ last ∧ upToDay last date.next? = some n := by
  cases hnext : date.next? with
  | none => exact .inl ⟨rfl, Date.le_of_next?_eq_none hnext last⟩
  | some n =>
    by_cases hn : n ≤ last
    · exact .inr ⟨n, rfl, hn, if_pos hn⟩
    · exact .inl ⟨if_neg hn, (Date.lt_next_iff hnext).1 (Date.not_le.1 hn)⟩

/-- The rest of a walk tells the balances from its next day on. -/
lemma Holds.take (h : Holds first last ps t) (hadd : Addable (ps.map (·.amount.value)))
    (hfirst : first ≤ date) (hlast : date ≤ last) {balance : Decimal}
    (hbalance : balance.value = Posting.sumWhere (beforeDay date ·.date?) ps) {count : ℕ}
    (hcount : last.dayNumber - date.dayNumber < count) : ∃ points,
      (⟨t, some date, balance⟩ : RunningBalance).take .rounding count = .ok points ∧
      Tells date last ps points := by
  -- induction on the number of steps, which is larger than that of the days that are left
  induction count generalizing date balance with
  | zero =>
    have := Date.dayNumber_le hlast
    simp at hcount
    omega
  | succ count ih =>
    obtain ⟨b, hb, hv⟩ := h.balanceAfter hadd hfirst hlast (some date) hbalance
    rw [take_of_balanceAfter count hb, h.last_eq]
    rcases upToDay_next? last date with ⟨hnone, hover⟩ | ⟨n, hnext, hn, hsome⟩
    · obtain rfl := Date.le_antisymm hlast hover
      rw [hnone, take_of_none]
      exact ⟨_, rfl, .single hv⟩
    · have hlt : date < n := (Date.lt_next_iff hnext).2 (Date.le_refl date)
      have hnumber := Date.dayNumber_next hnext
      obtain ⟨points, hpoints, tells⟩ := ih (Date.le_trans hfirst (Date.le_of_lt hlt)) hn
        (by rw [sumWhere_before_next hnext, hv]) (by push_cast at hcount; omega)
      rw [hsome, hpoints]
      exact ⟨_, rfl, tells.cons hnext hn hv⟩

lemma Holds.start_eq (h : Holds first last ps t) (hspan : first ≤ last) :
    RunningBalance.start t = ⟨t, some first, t.carryIn⟩ := by
  simp [RunningBalance.start, upToDay, h.first_eq, h.last_eq, hspan]

/-- A walk is long enough for its span. -/
lemma Holds.lt_length (h : Holds first last ps t) (hspan : first ≤ last) :
    last.dayNumber - first.dayNumber
      < ((⟨t, some first, t.carryIn⟩ : RunningBalance).length : ℕ) := by
  have := Date.dayNumber_le hspan
  show _ < ((t.last.dayNumber - first.dayNumber + 1).toNat : ℤ)
  rw [h.last_eq]
  omega

/-- The series of a span tells the balance at each of its days. -/
theorem Holds.series (h : Holds first last ps t) (hspan : first ≤ last)
    (hadd : Addable (ps.map (·.amount.value))) :
    ∃ series, t.series .rounding = .ok series ∧ Tells first last ps series.points := by
  obtain ⟨points, hpoints, tells⟩ :=
    h.take hadd (Date.le_refl first) hspan h.carryIn_eq (h.lt_length hspan)
  refine ⟨⟨t.carryIn, points⟩, ?_, tells⟩
  rw [DailyTotals.series, h.start_eq hspan, RunningBalance.points, hpoints]
  rfl

end DailyTotals

end Daybook
