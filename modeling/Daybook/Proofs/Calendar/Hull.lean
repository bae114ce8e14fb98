import Daybook.Proofs.Calendar.DateRange
import Daybook.Proofs.Calendar.Day
import Daybook.Proofs.Query.Union

/-!
# Smallest hulls

A hull is the smallest range that includes two others if both hold a day (`includes_hull`): each of its days lies
between days of the two. A range whose bounds are the wrong way round holds no day, but its bounds still count,
and may take the hull beyond the other range. How far it goes is said by `hull_least_iff`.

The bounds of the empty range do no harm, so hints of unions and of queries are not widened by operands that
are known to hold nothing. Those that come from two ranges without a common day can widen them, see
`gap_in_hull`.
-/

namespace Daybook

namespace DateRange

variable {c r s : DateRange} {rs : List DateRange} {d e x y : Date}

/-- What is in the other range is in this one. -/
def Includes (c r : DateRange) : Prop := ∀ d, r.contains d = true → c.contains d = true

/-! ### Days between days -/

lemma contains_day_iff : r.contains (some d) = true ↔
    r.undatedOnly = false ∧ notBefore d r.first? = true ∧ notAfter d r.last? = true := by
  rw [contains, Bool.and_eq_true, Bool.and_eq_true, Bool.not_eq_true', and_assoc]

/-- A range has no gaps. -/
lemma contains_between (hx : r.contains (some x) = true) (hy : r.contains (some y) = true) (hxd : x ≤ d)
    (hdy : d ≤ y) : r.contains (some d) = true := by
  rw [contains_day_iff] at *
  refine ⟨hx.1, ?_, ?_⟩
  · cases hs : r.first? with
    | none => rfl
    | some s =>
      have hsx : s ≤ x := by simpa [hs, notBefore] using hx.2.1
      exact decide_eq_true (Date.le_trans hsx hxd)
  · cases he : r.last? with
    | none => rfl
    | some e =>
      have hye : y ≤ e := by simpa [he, notAfter] using hy.2.2
      exact decide_eq_true (Date.le_trans hdy hye)

/-- Behind the lower bound of a range with a day, some day of the range has come already. -/
lemma exists_day_le (hx : r.contains (some x) = true) (hd : notBefore d r.first? = true) :
    ∃ y, r.contains (some y) = true ∧ y ≤ d := by
  obtain ⟨hdated, hfirst, hlast⟩ := contains_day_iff.1 hx
  by_cases hxd : x ≤ d
  · exact ⟨x, hx, hxd⟩
  · -- the day itself then lies between the lower bound and a day of the range
    refine ⟨d, contains_day_iff.2 ⟨hdated, hd, ?_⟩, Date.le_refl d⟩
    cases he : r.last? with
    | none => rfl
    | some e =>
      have hxe : x ≤ e := by simpa [he, notAfter] using hlast
      exact decide_eq_true (Date.le_trans (Date.le_of_lt (Date.not_le.1 hxd)) hxe)

/-- Before the upper bound of a range with a day, some day of the range is still to come. -/
lemma exists_day_ge (hx : r.contains (some x) = true) (hd : notAfter d r.last? = true) :
    ∃ y, r.contains (some y) = true ∧ d ≤ y := by
  obtain ⟨hdated, hfirst, hlast⟩ := contains_day_iff.1 hx
  by_cases hdx : d ≤ x
  · exact ⟨x, hx, hdx⟩
  · refine ⟨d, contains_day_iff.2 ⟨hdated, ?_, hd⟩, Date.le_refl d⟩
    cases hs : r.first? with
    | none => rfl
    | some s =>
      have hsx : s ≤ x := by simpa [hs, notBefore] using hfirst
      exact decide_eq_true (Date.le_trans hsx (Date.le_of_lt (Date.not_le.1 hdx)))

/-! ### Hulls of two ranges -/

/-- Behind the lower bound of a hull is behind one of the two bounds. -/
lemma notBefore_of_hullStart {a b : Option Date} (h : notBefore d (hullStart a b) = true) :
    notBefore d a = true ∨ notBefore d b = true := by
  match a, b, h with
  | none,   _,      _ => exact .inl rfl
  | some a, none,   _ => exact .inr rfl
  | some a, some b, h =>
    simp only [hullStart, min] at h
    split at h
    · exact .inl h
    · exact .inr h

lemma notAfter_of_hullEnd {a b : Option Date} (h : notAfter d (hullEnd a b) = true) :
    notAfter d a = true ∨ notAfter d b = true := by
  match a, b, h with
  | none,   _,      _ => exact .inl rfl
  | some a, none,   _ => exact .inr rfl
  | some a, some b, h =>
    simp only [hullEnd, max] at h
    split at h
    · exact .inr h
    · exact .inl h

lemma hull_of_dated (hr : r.undatedOnly = false) (hs : s.undatedOnly = false) : r.hull s
    = ⟨hullStart r.first? s.first?, hullEnd r.last? s.last?, r.undated || s.undated, false⟩ := by
  rw [hull, hr, hs]
  rfl

/-- A hull holds undated vouchers only if one of its ranges does. -/
lemma contains_none_of_hull (h : (r.hull s).contains none = true) :
    r.contains none = true ∨ s.contains none = true := by
  unfold hull at h
  split at h
  · exact .inl (by simp [contains, *])
  · split at h
    · exact .inr (by simp [contains, *])
    · simp_all [contains]

/-- Every day of the hull of two ranges with days lies between days of them. -/
lemma exists_days_of_hull (hx : r.contains (some x) = true) (hy : s.contains (some y) = true)
    (hd : (r.hull s).contains (some d) = true) :
    (∃ a, (r.contains (some a) = true ∨ s.contains (some a) = true) ∧ a ≤ d) ∧
      ∃ b, (r.contains (some b) = true ∨ s.contains (some b) = true) ∧ d ≤ b := by
  rw [hull_of_dated (contains_day_iff.1 hx).1 (contains_day_iff.1 hy).1, contains_day_iff] at hd
  obtain ⟨_, hfirst, hlast⟩ := hd
  constructor
  · rcases notBefore_of_hullStart hfirst with h | h
    · exact (exists_day_le hx h).imp fun a ha => ha.imp_left .inl
    · exact (exists_day_le hy h).imp fun a ha => ha.imp_left .inr
  · rcases notAfter_of_hullEnd hlast with h | h
    · exact (exists_day_ge hx h).imp fun b hb => hb.imp_left .inl
    · exact (exists_day_ge hy h).imp fun b hb => hb.imp_left .inr

lemma hullStart_comm (a b : Option Date) : hullStart a b = hullStart b a := by
  rcases a with _ | a <;> rcases b with _ | b <;> try rfl
  simp only [hullStart, min, Option.some.injEq]
  split <;> split
  · exact Date.le_antisymm ‹_› ‹_›
  · rfl
  · rfl
  · exact ((Date.le_total a b).elim ‹¬ a ≤ b› ‹¬ b ≤ a›).elim

lemma hullEnd_comm (a b : Option Date) : hullEnd a b = hullEnd b a := by
  rcases a with _ | a <;> rcases b with _ | b <;> try rfl
  simp only [hullEnd, max, Option.some.injEq]
  split <;> split
  · exact Date.le_antisymm ‹_› ‹_›
  · rfl
  · rfl
  · exact ((Date.le_total a b).elim ‹¬ a ≤ b› ‹¬ b ≤ a›).elim

/-- Next to undated vouchers only, a hull has the days of the other range. -/
lemma hull_day_of_undatedOnly (h : r.undatedOnly = true) (s : DateRange) (d : Date) :
    (r.hull s).contains (some d) = s.contains (some d) := by
  rw [hull, if_pos h]
  rfl

/-- A hull has the same days the other way round. -/
lemma hull_day_comm (r s : DateRange) (d : Date) :
    (r.hull s).contains (some d) = (s.hull r).contains (some d) := by
  cases hr : r.undatedOnly with
  | true =>
    rw [hull_day_of_undatedOnly hr]
    cases hs : s.undatedOnly with
    | true =>
      rw [hull_day_of_undatedOnly hs]
      simp [contains, hr, hs]
    | false => rw [hull, if_neg (by simp [hs]), if_pos hr]; rfl
  | false =>
    cases hs : s.undatedOnly with
    | true =>
      rw [hull_day_of_undatedOnly hs, hull, if_neg (by simp [hr]), if_pos hs]
      rfl
    | false =>
      rw [hull_of_dated hr hs, hull_of_dated hs hr, hullStart_comm, hullEnd_comm]
      rfl

/-- What includes both ranges and the days of their hull includes the hull. -/
lemma includes_hull_of_days (hr : c.Includes r) (hs : c.Includes s)
    (h : ∀ d : Date, (r.hull s).contains (some d) = true → c.contains (some d) = true) :
    c.Includes (r.hull s) := by
  intro d hd
  cases d with
  | none => exact (contains_none_of_hull hd).elim (hr _) (hs _)
  | some d => exact h d hd

/-- A hull is the smallest range that includes both, unless the bounds of one are the wrong way round. -/
lemma includes_hull (hreversed : ¬ r.Reversed) (hreversed' : ¬ s.Reversed) (hr : c.Includes r)
    (hs : c.Includes s) : c.Includes (r.hull s) := by
  apply includes_hull_of_days hr hs
  intro d hd
  cases hdated : r.undatedOnly with
  | true =>
    rw [hull_day_of_undatedOnly hdated] at hd
    exact hs _ hd
  | false =>
    cases hdated' : s.undatedOnly with
    | true =>
      rw [hull_day_comm, hull_day_of_undatedOnly hdated'] at hd
      exact hr _ hd
    | false =>
      -- both have days, and `c` has no gaps: it reaches from one day around `d` to the other
      obtain ⟨x, hx⟩ := exists_day hdated hreversed
      obtain ⟨y, hy⟩ := exists_day hdated' hreversed'
      obtain ⟨⟨a, ha, had⟩, b, hb, hdb⟩ := exists_days_of_hull hx hy hd
      exact contains_between (ha.elim (hr _) (hs _)) (hb.elim (hr _) (hs _)) had hdb

/-- If the smallest range is asked for, a range of the wrong way round must not add days. -/
lemma hull_day_of_reversed (h : r.Reversed) (least : ∀ c : DateRange, c.Includes r → c.Includes s →
    c.Includes (r.hull s)) (d : Date) : (r.hull s).contains (some d) = s.contains (some d) := by
  have includes : s.withUndated.Includes r := by
    intro d hd
    cases d with
    | none => rfl
    | some d => simp [h.contains_day d] at hd
  have includes' : s.withUndated.Includes s := fun d => contains_withUndated
  apply Bool.eq_iff_iff.2
  constructor
  · exact least _ includes includes' (some d)
  · exact fun hd => contains_hull (.inr hd)

/-! ### Hulls of several ranges -/

/-- The bounds are the wrong way round, and they are not those of the empty range. -/
def Stray (r : DateRange) : Prop :=
  r.Reversed ∧ ¬ (r.first? = some .last ∧ r.last? = some .first)

lemma hullStart_last (b : Option Date) : hullStart (some .last) b = b := by
  cases b with
  | none => rfl
  | some b =>
    show some (if Date.last ≤ b then Date.last else b) = some b
    by_cases h : Date.last ≤ b
    · rw [if_pos h, Date.le_antisymm h (Date.le_last b)]
    · rw [if_neg h]

lemma hullEnd_first (b : Option Date) : hullEnd (some .first) b = b := by
  cases b with
  | none => rfl
  | some b =>
    show some (if Date.first ≤ b then b else Date.first) = some b
    rw [if_pos (Date.first_le b)]

/-- The bounds of the empty range add nothing to a hull. -/
lemma Reversed.hull_day (h : r.Reversed) (hstray : ¬ r.Stray) (s : DateRange) (d : Date) :
    (r.hull s).contains (some d) = s.contains (some d) := by
  have outermost : r.first? = some .last ∧ r.last? = some .first := not_not.1 fun hne => hstray ⟨h, hne⟩
  cases hs : s.undatedOnly with
  | true =>
    rw [hull_day_comm, hull_day_of_undatedOnly hs, h.contains_day]
    simp [contains, hs]
  | false =>
    rw [hull_of_dated h.1 hs, outermost.1, outermost.2, hullStart_last, hullEnd_first]
    simp [contains, hs]

lemma includes_hull_of_not_stray (hstray : ¬ r.Stray) (hstray' : ¬ s.Stray) (hr : c.Includes r)
    (hs : c.Includes s) : c.Includes (r.hull s) := by
  by_cases h : r.Reversed
  · exact includes_hull_of_days hr hs fun d hd => hs _ (h.hull_day hstray s d ▸ hd)
  · by_cases h' : s.Reversed
    · apply includes_hull_of_days hr hs
      intro d hd
      rw [hull_day_comm, h'.hull_day hstray'] at hd
      exact hr _ hd
    · exact includes_hull h h' hr hs

lemma hullStart_eq_some {a b : Option Date} (h : hullStart a b = some d) :
    ∃ x y, a = some x ∧ b = some y ∧ d ≤ x ∧ d ≤ y := by
  rcases a with _ | x
  · exact absurd h (by simp [hullStart])
  · rcases b with _ | y
    · exact absurd h (by simp [hullStart])
    refine ⟨x, y, rfl, rfl, ?_⟩
    simp only [hullStart, min, Option.some.injEq] at h
    split at h <;> obtain rfl := h
    · exact ⟨Date.le_refl _, ‹_›⟩
    · exact ⟨(Date.le_total x y).resolve_left ‹_›, Date.le_refl _⟩

lemma hullEnd_eq_some {a b : Option Date} (h : hullEnd a b = some d) :
    ∃ x y, a = some x ∧ b = some y ∧ x ≤ d ∧ y ≤ d := by
  rcases a with _ | x
  · exact absurd h (by simp [hullEnd])
  · rcases b with _ | y
    · exact absurd h (by simp [hullEnd])
    refine ⟨x, y, rfl, rfl, ?_⟩
    simp only [hullEnd, max, Option.some.injEq] at h
    split at h <;> obtain rfl := h
    · exact ⟨‹_›, Date.le_refl _⟩
    · exact ⟨Date.le_refl _, (Date.le_total x y).resolve_left ‹_›⟩

/-- The hull of ranges that are not stray is not stray. -/
lemma not_stray_hull (hr : ¬ r.Stray) (hs : ¬ s.Stray) : ¬ (r.hull s).Stray := by
  rintro ⟨hreversed, hne⟩
  cases hdated : r.undatedOnly with
  | true =>
    rw [hull, if_pos hdated] at hreversed hne
    exact hs ⟨hreversed, hne⟩
  | false =>
    cases hdated' : s.undatedOnly with
    | true =>
      rw [hull, if_neg (by simp [hdated]), if_pos hdated'] at hreversed hne
      exact hr ⟨hreversed, hne⟩
    | false =>
      rw [hull_of_dated hdated hdated'] at hreversed hne
      obtain ⟨_, a, b, ha, hb, hlt⟩ := hreversed
      obtain ⟨x, y, hx, hy, hax, hay⟩ := hullStart_eq_some ha
      obtain ⟨x', y', hx', hy', hxb, hyb⟩ := hullEnd_eq_some hb
      have crossed : ∀ {x x' : Date}, a ≤ x → x' ≤ b → x' < x := fun hax hxb =>
        Date.not_le.1 fun h => Date.not_le.2 hlt (Date.le_trans hax (Date.le_trans h hxb))
      -- both ranges are the wrong way round, so both have the bounds of the empty range
      have hrr : r.Reversed := ⟨hdated, x, x', hx, hx', crossed hax hxb⟩
      have hsr : s.Reversed := ⟨hdated', y, y', hy, hy', crossed hay hyb⟩
      have outermost := not_not.1 fun hne => hr ⟨hrr, hne⟩
      have outermost' := not_not.1 fun hne => hs ⟨hsr, hne⟩
      refine hne ⟨?_, ?_⟩
      · rw [outermost.1, outermost'.1, hullStart_last]
      · rw [outermost.2, outermost'.2, hullEnd_first]

lemma includes_foldl_hull (hr : ¬ r.Stray) (hrs : ∀ s ∈ rs, ¬ s.Stray) (hc : c.Includes r)
    (hcs : ∀ s ∈ rs, c.Includes s) : c.Includes (rs.foldl hull r) := by
  induction rs generalizing r with
  | nil => exact hc
  | cons s rs ih =>
    obtain ⟨hs, hrs⟩ := List.forall_mem_cons.1 hrs
    obtain ⟨hcs, hcrs⟩ := List.forall_mem_cons.1 hcs
    exact ih (not_stray_hull hr hs) hrs (includes_hull_of_not_stray hr hs hc hcs) hcrs

/-- The hull of a list of ranges is the smallest one that includes them, if none of them is stray. -/
lemma includes_hullAll (hrs : ∀ r ∈ rs, ¬ r.Stray) (hcs : ∀ r ∈ rs, c.Includes r) :
    c.Includes (hullAll rs) := by
  cases rs with
  | nil =>
    intro d hd
    simp [hullAll] at hd
  | cons r rs =>
    obtain ⟨hr, hrs⟩ := List.forall_mem_cons.1 hrs
    obtain ⟨hc, hcs⟩ := List.forall_mem_cons.1 hcs
    exact includes_foldl_hull hr hrs hc hcs

/-! ### Smallest hulls -/

/-- The hull of two ranges is the smallest one that includes both exactly if a range of the wrong way round, which
holds no day itself, adds no days to the other one. The hints of a union and of a query are the smallest ones
that include those of their operands, if no operand's hint is stray. -/
theorem hull_least_iff (r s : DateRange) (ts : List FilterTree) (q : ResolvedQuery) :
    ((∀ c : DateRange, c.Includes r → c.Includes s → c.Includes (r.hull s)) ↔
      (r.Reversed → ∀ d : Date, (r.hull s).contains (some d) = s.contains (some d)) ∧
      (s.Reversed → ∀ d : Date, (r.hull s).contains (some d) = r.contains (some d))) ∧
    ((∀ t ∈ ts, ¬ t.dateHint.Stray) → ∀ c : DateRange, (∀ t ∈ ts, c.Includes t.dateHint) →
      c.Includes (FilterTree.union ts).dateHint) ∧
    ((∀ leaf ∈ q.leaves, ¬ leaf.dateHint.Stray) → ∀ c : DateRange,
      (∀ leaf ∈ q.leaves, c.Includes leaf.dateHint) → c.Includes q.dateHint) := by
  refine ⟨⟨fun least => ⟨?_, ?_⟩, fun ⟨hleft, hright⟩ c hr hs => ?_⟩, ?_, ?_⟩
  · intro h
    exact hull_day_of_reversed h least
  · -- the same for the other range, since days do not depend on the order of the two
    intro h d
    rw [hull_day_comm]
    refine hull_day_of_reversed h (fun c hs hr => includes_hull_of_days hs hr fun d hd => ?_) d
    rw [hull_day_comm] at hd
    exact least c hr hs _ hd
  · -- a range of the wrong way round adds nothing by assumption, and without one the hull is least
    by_cases h : r.Reversed
    · exact includes_hull_of_days hr hs fun d hd => hs _ (hleft h d ▸ hd)
    · by_cases h' : s.Reversed
      · exact includes_hull_of_days hr hs fun d hd => hr _ (hright h' d ▸ hd)
      · exact includes_hull h h' hr hs
  · intro hts c hcs
    rw [FilterTree.dateHint, FilterTree.dateHints_eq]
    exact includes_hullAll (List.forall_mem_map.2 hts) (List.forall_mem_map.2 hcs)
  · intro hleaves c hcs
    exact includes_hullAll (List.forall_mem_map.2 hleaves) (List.forall_mem_map.2 hcs)

/-- Next to an empty range, the hint of a union does not grow. -/
theorem empty_widens_nothing :
    (∀ t ∈ [FilterTree.during .empty, .during (.since .january2028)], ¬ t.dateHint.Stray) ∧
      (since .january2028).Includes
        (FilterTree.union [.during .empty, .during (.since .january2028)]).dateHint := by
  have stray : ∀ t ∈ [FilterTree.during .empty, .during (.since .january2028)], ¬ t.dateHint.Stray := by
    intro t ht
    rcases List.mem_pair.1 ht with rfl | rfl
    · rw [FilterTree.dateHint_during]
      exact fun h => h.2 ⟨rfl, rfl⟩
    · rw [FilterTree.dateHint_during]
      rintro ⟨⟨_, _, _, _, hlast, _⟩, _⟩
      cases hlast
  refine ⟨stray, (hull_least_iff .empty .empty _ ⟨[]⟩).2.1 stray _ fun t ht d hd => ?_⟩
  rcases List.mem_pair.1 ht with rfl | rfl
  · simp at hd
  · rwa [FilterTree.dateHint_during] at hd

/-- Nothing is both up to the end of January and from February on. The bounds of that common part still take the
hull with a later range back to February, and so does the hint of a union. -/
theorem gap_in_hull :
    ((upTo .january30).intersect (since .february1)).isEmpty = true ∧
      (since .january2028).Includes ((upTo .january30).intersect (since .february1)) ∧
      ¬ (since .january2028).Includes
        (((upTo .january30).intersect (since .february1)).hull (since .january2028)) ∧
      ¬ (since .january2028).Includes (FilterTree.union
        [.intersect [.during (.upTo .january30), .during (.since .february1)],
          .during (.since .january2028)]).dateHint := by
  have nothing : ((upTo .january30).intersect (since .february1)).isEmpty = true := by decide
  refine ⟨nothing, fun d hd => ?_, fun includes => ?_, fun includes => ?_⟩
  · rw [isEmpty_iff_forall.1 nothing d] at hd
    cases hd
  · exact absurd (includes (some .february1) (by decide)) (by decide)
  · exact absurd (includes (some .february1) (by cbv)) (by decide)

end DateRange

end Daybook
