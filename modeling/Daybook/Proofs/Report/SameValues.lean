import Daybook.Proofs.Report.DailyLossless
import Daybook.Proofs.Report.Group
import Daybook.Proofs.Report.Pruning

/-!
# Reports with the same values

Two trees of groups have the `Group.SameValues` if they have the same keys in the same places and equal
numbers there; the decimals may be written with different places. Without loss, postings decide on the
values of a sorted report whatever order they come in (`Group.Reports.sameValues`).
-/

namespace Daybook

variable {days? : Option (Date × Date)} {n : ℕ} {ps qs : List Posting}

/-! ### Postings with the same sums -/

/-- On whatever dates, the sum of the first postings is that of the second ones times a factor. -/
def Posting.SumsTimes (x : ℚ) (ps qs : List Posting) : Prop :=
  ∀ P : Option Date → Bool, sumWhere (P ·.date?) ps = x * sumWhere (P ·.date?) qs

lemma Posting.sumsTimes_of_perm (h : ps.Perm qs) : SumsTimes 1 ps qs :=
  fun P => by rw [sumWhere_of_perm h, one_mul]

lemma Posting.SumsTimes.sum_eq {x : ℚ} (h : SumsTimes x ps qs) :
    (ps.map (·.amount.value)).sum = x * (qs.map (·.amount.value)).sum := by
  rw [← sumWhere_eq_sum fun _ _ => rfl, h fun _ => true,
    sumWhere_eq_sum fun _ _ => rfl]

/-! ### Series -/

/-- The numbers of a series. -/
def DaySeries.values (s : DaySeries) : ℚ × List (Date × ℚ) :=
  (s.carryIn.value, s.points.map fun point => (point.date, point.balance.value))

/-- The numbers of a series times a factor. -/
def DaySeries.valuesTimes (x : ℚ) (s : DaySeries) : ℚ × List (Date × ℚ) :=
  (x * s.carryIn.value, s.points.map fun point => (point.date, x * point.balance.value))

@[simp] lemma DaySeries.valuesTimes_one : valuesTimes 1 = values := by
  funext s
  simp [valuesTimes, values]

namespace DailyTotals

variable {first last : Date} {points points' : List DayPoint} {t t' : DailyTotals} {x : ℚ}

lemma Tells.values_eq (h : Tells first last ps points) :
    points.map (fun point => (point.date, point.balance.value)) = (points.map (·.date)).map fun d =>
      (d, Posting.sumWhere ((DateRange.upTo d).withUndated.contains ·.date?) ps) := by
  rw [List.map_map]
  refine List.map_congr_left fun point hpoint => ?_
  rw [h.balance_eq point hpoint]
  rfl

/-- The days of a span are told in one way. -/
lemma Tells.dates_unique (h : Tells first last ps points) (h' : Tells first last qs points') :
    points.map (·.date) = points'.map (·.date) := by
  refine List.Perm.eq_of_pairwise (fun a b _ _ hab hba => ?_) h.ordered h'.ordered ?_
  · exact absurd (Date.lt_trans hab hba) (Date.lt_irrefl a)
  · rw [List.perm_ext_iff_of_nodup (h.ordered.imp Date.ne_of_lt) (h'.ordered.imp Date.ne_of_lt)]
    exact fun d => (h.mem_iff d).trans (h'.mem_iff d).symm

lemma Tells.values_times (h : Tells first last ps points) (h' : Tells first last qs points')
    (hsums : Posting.SumsTimes x ps qs) :
    points.map (fun point => (point.date, point.balance.value))
      = points'.map fun point => (point.date, x * point.balance.value) := by
  have times : points'.map (fun point => (point.date, x * point.balance.value))
      = (points'.map fun point => (point.date, point.balance.value)).map fun (d, b) => (d, x * b) := by
    rw [List.map_map]
    rfl
  rw [times, h.values_eq, h'.values_eq, h.dates_unique h']
  generalize points'.map (·.date) = dates
  rw [List.map_map]
  exact List.map_congr_left fun d _ => congrArg (d, ·) (hsums _)

end DailyTotals

/-! ### Tallies -/

/-- What is concluded without loss depends on the sums of the postings, in proportion to them. -/
lemma Bucket.conclude_of_sums {x : ℚ} (hsums : Posting.SumsTimes x ps qs)
    (hdays : ∀ first last, days? = some (first, last) → first ≤ last) {isLeaf : Bool}
    {tally tally' : Tally} {total total' : Decimal} {series? series?' : Option DaySeries}
    (htally : Tally.collect .lossless days? ps = .ok tally)
    (htally' : Tally.collect .lossless days? qs = .ok tally')
    (h : conclude .lossless isLeaf tally = .ok (total, series?))
    (h' : conclude .lossless isLeaf tally' = .ok (total', series?')) :
    total.value = x * total'.value ∧
      series?.map DaySeries.values = series?'.map (DaySeries.valuesTimes x) := by
  cases days? with
  | none =>
    obtain ⟨sum, hsum, hconclude⟩ := conclude_of_collect_none htally isLeaf
    obtain ⟨sum', hsum', hconclude'⟩ := conclude_of_collect_none htally' isLeaf
    cases hconclude.symm.trans h
    cases hconclude'.symm.trans h'
    rw [Arithmetic.value_of_sum hsum, Arithmetic.value_of_sum hsum', List.map_map, List.map_map]
    exact ⟨hsums.sum_eq, rfl⟩
  | some days =>
    obtain ⟨first, last⟩ := days
    have hspan := hdays first last rfl
    obtain ⟨t, rfl, holds⟩ := DailyTotals.holds_of_collect hspan htally
    obtain ⟨t', rfl, holds'⟩ := DailyTotals.holds_of_collect hspan htally'
    obtain ⟨htotal, hseries⟩ := conclude_daily_eq_ok.1 h
    obtain ⟨htotal', hseries'⟩ := conclude_daily_eq_ok.1 h'
    constructor
    · rw [holds.value_total hspan htotal, holds'.value_total hspan htotal']
      exact hsums _
    · rcases hseries with ⟨hleaf, rfl⟩ | ⟨hleaf, s, hs, rfl⟩ <;>
        rcases hseries' with ⟨hleaf', rfl⟩ | ⟨hleaf', s', hs', rfl⟩
      · rfl
      · cases hleaf.symm.trans hleaf'
      · cases hleaf.symm.trans hleaf'
      · obtain ⟨hcarry, tells⟩ := holds.tells_of_series hspan hs
        obtain ⟨hcarry', tells'⟩ := holds'.tells_of_series hspan hs'
        have carry : s.carryIn.value = x * s'.carryIn.value := by
          rw [hcarry, hcarry']
          exact hsums _
        rw [Option.map_some, Option.map_some, DaySeries.values, DaySeries.valuesTimes, carry,
          tells.values_times tells' hsums]

/-! ### Reports on related postings -/

/-- Lists of postings are related in a way that reports can follow: their sums are in proportion on whatever
dates, they have the same next keys in order, and what goes into a part of them is related again. -/
structure Posting.Followed (x : ℚ) (order : GroupOrder) (T : List Posting → List Posting → Prop) :
    Prop where
  sums : ∀ {ps qs}, T ps qs → SumsTimes x ps qs
  keys : ∀ {ps qs}, T ps qs →
    GroupKey.arrange order (nextKeys ps) = GroupKey.arrange order (nextKeys qs)
  under : ∀ {ps qs}, T ps qs → ∀ key, T (under key ps) (under key qs)

namespace Group

/-- Two reports without loss on related postings have the same keys in the same places, and numbers in
proportion. What else their groups have in common is a relation that holds of undivided groups because their
postings are related, and of divided ones because their parts have it. -/
theorem Reports.related {x : ℚ} {order : GroupOrder} {T : List Posting → List Posting → Prop}
    {R : Group → Group → Prop} (followed : Posting.Followed x order T)
    (hdays : ∀ first last, days? = some (first, last) → first ≤ last)
    (undivided : ∀ {ps qs} {key : GroupKey} {total total' : Decimal} {series? series?' : Option DaySeries},
      T ps qs → total.value = x * total'.value →
      series?.map DaySeries.values = series?'.map (DaySeries.valuesTimes x) →
      R (.mk key total none [] (ps.filterMap (·.listed?)) series?)
        (.mk key total' none [] (qs.filterMap (·.listed?)) series?'))
    (divided : ∀ {key : GroupKey} {total total' : Decimal} {children children' : List Group}
      {series? series?' : Option DaySeries}, total.value = x * total'.value →
      List.Forall₂ R children children' →
      series?.map DaySeries.values = series?'.map (DaySeries.valuesTimes x) →
      R (.mk key total none children [] series?) (.mk key total' none children' [] series?'))
    {g g' : Group} (hT : T ps qs) (h : Reports .lossless days? order n ps g)
    (h' : Reports .lossless days? order n qs g') (hkey : g.key = g'.key) : R g g' := by
  induction n generalizing ps qs g g' with
  | zero =>
    obtain ⟨tally_eq, conclude_eq⟩ := h
    obtain ⟨tally_eq', conclude_eq'⟩ := h'
    obtain rfl := hkey
    obtain ⟨htotal, hseries⟩ := Bucket.conclude_of_sums (followed.sums hT) hdays tally_eq tally_eq'
      conclude_eq conclude_eq'
    exact undivided hT htotal hseries
  | succ n ih =>
    obtain _ | ⟨tally_eq, conclude_eq, keys_eq, parts⟩ := h
    obtain _ | ⟨tally_eq', conclude_eq', keys_eq', parts'⟩ := h'
    obtain rfl := hkey
    have keys := keys_eq.trans ((followed.keys hT).trans keys_eq'.symm)
    have children := forall₂_of_map_key_eq keys fun c hc c' hc' hcc' =>
      ih (followed.under hT c.key) (parts c hc) (hcc' ▸ parts' c' hc') hcc'
    rw [isEmpty_eq_of_forall₂ children] at conclude_eq'
    obtain ⟨htotal, hseries⟩ := Bucket.conclude_of_sums (followed.sums hT) hdays tally_eq tally_eq'
      conclude_eq conclude_eq'
    exact divided htotal children hseries

end Group

/-- Sorted reports can follow the order of postings. -/
lemma Posting.followed_perm : Followed 1 .sorted List.Perm where
  sums := sumsTimes_of_perm
  keys h := GroupKey.arrange_sorted_of_perm (nextKeys_perm h)
  under h key := under_perm h key

/-! ### Trees -/

/-- The groups have the same keys in the same places, and equal numbers there. -/
inductive Group.SameValues : Group → Group → Prop
  | mk {key : GroupKey} {total total' : Decimal} {converted? converted?' : Option Decimal}
      {children children' : List Group} {entries : List EntryRef} {series? series?' : Option DaySeries}
      (total_eq : total.value = total'.value)
      (converted_eq : converted?.map Decimal.value = converted?'.map Decimal.value)
      (parts : List.Forall₂ SameValues children children')
      (series_eq : series?.map DaySeries.values = series?'.map DaySeries.values) :
      SameValues (.mk key total converted? children entries series?)
        (.mk key total' converted?' children' entries series?')

namespace Group

variable {g g' : Group}

lemma SameValues.value_total (h : g.SameValues g') : g.total.value = g'.total.value := by
  cases h with
  | mk total_eq => exact total_eq

/-- Without loss and without listings, the order of the postings does not matter to a sorted report. -/
theorem Reports.sameValues (hdays : ∀ first last, days? = some (first, last) → first ≤ last)
    (hperm : ps.Perm qs) (unlisted : ∀ p ∈ ps, p.listed? = none)
    (h : Reports .lossless days? .sorted n ps g) (h' : Reports .lossless days? .sorted n qs g')
    (hkey : g.key = g'.key) : g.SameValues g' := by
  have followed : Posting.Followed 1 .sorted fun ps qs =>
      ps.Perm qs ∧ ∀ p ∈ ps, p.listed? = none := by
    refine ⟨fun h => Posting.followed_perm.sums h.1, fun h => Posting.followed_perm.keys h.1, ?_⟩
    rintro ps qs ⟨hperm, unlisted⟩ key
    refine ⟨Posting.under_perm hperm key, fun q hq => ?_⟩
    obtain ⟨p, hp, _, hpart⟩ := Posting.exists_of_mem_under hq
    rw [hpart]
    exact unlisted p hp
  refine Reports.related followed hdays ?_ ?_ ⟨hperm, unlisted⟩ h h' hkey
  · rintro ps qs key total total' series? series?' ⟨hperm, unlisted⟩ htotal hseries
    rw [List.filterMap_eq_nil_iff.2 unlisted,
      List.filterMap_eq_nil_iff.2 fun p hp => unlisted p (hperm.mem_iff.2 hp)]
    exact .mk (by rw [htotal, one_mul]) rfl .nil (by rw [hseries, DaySeries.valuesTimes_one])
  · intro key total total' children children' series? series?' htotal parts hseries
    exact .mk (by rw [htotal, one_mul]) rfl parts (by rw [hseries, DaySeries.valuesTimes_one])

/-! ### Pruning -/

/-- The same parts come to zero if their numbers are equal, and what stays is pruned in turn. -/
lemma forall₂_pruneAll {R : Group → Group → Prop} {gs gs' : List Group} (h : List.Forall₂ R gs gs')
    (total_eq : ∀ {g g'}, R g g' → g.total.value = g'.total.value)
    (inside : ∀ g ∈ gs, ∀ g', R g g' → R g.prune g'.prune) :
    List.Forall₂ R (pruneAll gs) (pruneAll gs') := by
  induction h with
  | nil => exact .nil
  | cons hg _ ih =>
    obtain ⟨first, rest⟩ := List.forall_mem_cons.1 inside
    rw [pruneAll, pruneAll, Decimal.vanishesAt_congr (total_eq hg)]
    split
    · exact ih rest
    · exact .cons (first _ hg) (ih rest)

theorem SameValues.prune : ∀ {g g' : Group}, g.SameValues g' → g.prune.SameValues g'.prune
  | .mk .., _, .mk total_eq converted_eq parts series_eq => by
    rw [Group.prune, Group.prune]
    exact .mk total_eq converted_eq (forall₂_pruneAll parts value_total fun c _ _ hc => hc.prune)
      series_eq

end Group

end Daybook
