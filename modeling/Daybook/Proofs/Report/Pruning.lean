import Daybook.Proofs.Report.Contributions
import Daybook.Proofs.Report.Conversion

/-!
# Pruned groups and their converted totals

Pruning leaves out the parts of a group whose totals come to zero at eight places. If the amounts have no
more places than that, the totals of these parts are zero. In a report whose first level is the currency
and that has no levels of dates, they come to zero in the reporting currency, too, so pruning keeps all
converted totals (`Consolidation.InOneCurrency.convertedTotal_prune`,
`Consolidation.ByCurrency.convertedTotal_prune`).

A pruned sum leaves out additions of zero, so it may end with a zero that is written with other places:
see `Decimal.Alike`.
-/

namespace Daybook

/-! ### Totals that come to zero -/

namespace Decimal

variable {a a' b b' c : Decimal} {places : ℕ}

/-- The number has at most so many places behind the point. -/
def HasPlaces (places : ℕ) (x : ℚ) : Prop := ∃ n : ℤ, x * 10 ^ places = n

/-- A product has the places of both factors at most. -/
lemma hasPlaces_mul (h : a.scale + b.scale ≤ places) : HasPlaces places (a.value * b.value) := by
  refine ⟨a.mantissa * b.mantissa * 10 ^ (places - (a.scale + b.scale)), ?_⟩
  have hpow : (10 : ℚ) ^ places = 10 ^ a.scale * 10 ^ b.scale * 10 ^ (places - (a.scale + b.scale)) := by
    rw [← pow_add, ← pow_add, Nat.add_sub_cancel' h]
  push_cast
  rw [hpow, ← a.value_mul_pow, ← b.value_mul_pow]
  ring

/-- What is at most half of the last place vanishes, and nothing else does. -/
lemma vanishesAt_iff : a.vanishesAt places = true ↔ 2 * (|a.value| * 10 ^ places) ≤ 1 := by
  have abs_mul_pow : ∀ s, |a.value| * 10 ^ s = |a.value * 10 ^ s| := fun s => by
    rw [abs_mul, abs_of_pos (show (0 : ℚ) < 10 ^ s by positivity)]
  unfold vanishesAt
  split
  · next hscale =>
    -- the number is whole at this place
    rw [abs_mul_pow, ← mantissaAt_eq hscale, isZero_iff]
    have hzero : a.value = 0 ↔ a.mantissaAt places = 0 := by
      have := mantissaAt_eq hscale
      constructor
      · intro h
        rw [h, zero_mul] at this
        exact_mod_cast this
      · intro h
        rw [h, Int.cast_zero, zero_eq_mul] at this
        exact this.resolve_right (by positivity)
    rw [hzero, ← Int.abs_lt_one_iff]
    norm_cast
    omega
  · next hscale =>
    have hpow : (10 : ℚ) ^ a.scale = 10 ^ places * 10 ^ (a.scale - places) := by
      rw [← pow_add, Nat.add_sub_cancel' (by omega)]
    have hvalue : |a.value| * 10 ^ places * 10 ^ (a.scale - places) = a.mantissa.natAbs := by
      rw [mul_assoc, ← hpow, abs_mul_pow, value_mul_pow, Nat.cast_natAbs, Int.cast_abs]
    have hpos : (0 : ℚ) < 10 ^ (a.scale - places) := by positivity
    rw [beq_iff_eq, divNearestEven_eq_zero_iff (tenPow_pos _), ← mul_le_mul_iff_left₀ hpos, one_mul,
      mul_assoc, hvalue, ← tenPow_cast]
    exact_mod_cast Iff.rfl

lemma vanishesAt_congr (h : a.value = b.value) : a.vanishesAt places = b.vanishesAt places := by
  rw [Bool.eq_iff_iff, vanishesAt_iff, vanishesAt_iff, h]

/-- What has no places beyond those that are looked at vanishes only if it is zero. -/
lemma isZero_of_vanishesAt (h : a.vanishesAt places = true) (ha : HasPlaces places a.value) :
    a.isZero = true := by
  obtain ⟨n, hn⟩ := ha
  have hpos : (0 : ℚ) < 10 ^ places := by positivity
  rw [vanishesAt_iff, ← abs_of_pos hpos, ← abs_mul, hn] at h
  have hzero : n = 0 := by
    rw [← Int.abs_lt_one_iff]
    norm_cast at h
    omega
  rw [hzero, Int.cast_zero, mul_eq_zero] at hn
  exact isZero_iff.2 (hn.resolve_right hpos.ne')

lemma vanishesAt_of_isZero (ha : a.isZero = true) (places : ℕ) : a.vanishesAt places = true := by
  rw [vanishesAt_iff, isZero_iff.1 ha]
  simp

/-! ### Zeros with other places -/

/-- The same decimal, or zeros that may be written with different places. -/
def Alike (a b : Decimal) : Prop := a = b ∨ a.isZero = true ∧ b.isZero = true

lemma Alike.value_eq (h : a.Alike b) : a.value = b.value := by
  rcases h with rfl | ⟨ha, hb⟩
  · rfl
  · rw [isZero_iff.1 ha, isZero_iff.1 hb]

lemma Alike.trans (h : a.Alike b) (h' : b.Alike c) : a.Alike c := by
  rcases h with rfl | ⟨ha, hb⟩
  · exact h'
  · rcases h' with rfl | ⟨_, hc⟩
    · exact .inr ⟨ha, hb⟩
    · exact .inr ⟨ha, hc⟩

/-- Adding a zero changes nothing, or another zero comes out. -/
lemma alike_of_add_zero (hb : b.isZero = true) (h : a.add b = .ok c) : c.Alike a := by
  by_cases ha : a.isZero = true
  · rw [add_of_isZero_left ha, Except.ok.injEq] at h
    exact .inr ⟨h ▸ hb, ha⟩
  · rw [Bool.not_eq_true] at ha
    rw [add_of_isZero_right ha hb, Except.ok.injEq] at h
    exact .inl h.symm

/-- Sums of like terms are alike. -/
lemma Alike.add (ha : a.Alike a') (hb : b.Alike b') (h : a.add b = .ok c) :
    ∃ c', a'.add b' = .ok c' ∧ c.Alike c' := by
  rcases ha with rfl | ⟨hzero, hzero'⟩
  · rcases hb with rfl | ⟨hzero, hzero'⟩
    · exact ⟨c, h, .inl rfl⟩
    · by_cases ha : a.isZero = true
      · exact ⟨b', add_of_isZero_left ha, (alike_of_add_zero hzero h).trans (.inr ⟨ha, hzero'⟩)⟩
      · rw [Bool.not_eq_true] at ha
        exact ⟨a, add_of_isZero_right ha hzero', alike_of_add_zero hzero h⟩
  · rw [add_of_isZero_left hzero, Except.ok.injEq] at h
    exact ⟨b', add_of_isZero_left hzero', h ▸ hb⟩

end Decimal

/-! ### Pruned groups -/

namespace Group

variable {g : Group} {gs : List Group}

@[simp] lemma key_prune (g : Group) : g.prune.key = g.key := by
  cases g
  rw [prune]
  rfl

@[simp] lemma total_prune (g : Group) : g.prune.total = g.total := by
  cases g
  rw [prune]
  rfl

@[simp] lemma children_prune (g : Group) : g.prune.children = pruneAll g.children := by
  cases g
  rw [prune]
  rfl

lemma pruneAll_cons_of_vanishes (h : g.total.vanishesAt zeroPlaces = true) :
    pruneAll (g :: gs) = pruneAll gs := by
  rw [pruneAll, if_pos h]

lemma pruneAll_cons_of_stays (h : ¬ g.total.vanishesAt zeroPlaces = true) :
    pruneAll (g :: gs) = g.prune :: pruneAll gs := by
  rw [pruneAll, if_neg h]

/-- What stays is pruned, in the same order. -/
lemma pruneAll_eq_map (gs : List Group) :
    pruneAll gs = (gs.filter fun g => !g.total.vanishesAt zeroPlaces).map prune := by
  induction gs with
  | nil => rw [pruneAll, List.filter_nil, List.map_nil]
  | cons g gs ih =>
    by_cases h : g.total.vanishesAt zeroPlaces = true
    · rw [pruneAll_cons_of_vanishes h, List.filter_cons_of_neg (by simpa using h), ih]
    · rw [pruneAll_cons_of_stays h, List.filter_cons_of_pos (by simpa using h), List.map_cons, ih]

lemma pruneAll_eq_nil : pruneAll gs = [] ↔ ∀ g ∈ gs, g.total.vanishesAt zeroPlaces = true := by
  induction gs with
  | nil => simp [pruneAll]
  | cons g gs ih =>
    rw [List.forall_mem_cons]
    by_cases h : g.total.vanishesAt zeroPlaces = true
    · rw [pruneAll_cons_of_vanishes h, ih]
      exact (and_iff_right h).symm
    · rw [pruneAll_cons_of_stays h]
      simp [h]

end Group

/-! ### Amounts of few places -/

/-- The amounts have no places beyond those that decide whether a total counts as zero. -/
def Posting.InPlaces (ps : List Posting) : Prop :=
  ∀ p ∈ ps, Decimal.HasPlaces Group.zeroPlaces p.amount.value

lemma Posting.InPlaces.under {ps : List Posting} (h : InPlaces ps) (key : GroupKey) :
    InPlaces (Posting.under key ps) := by
  intro q hq
  obtain ⟨p, hp, _, hpq⟩ := Posting.exists_of_mem_under hq
  rw [hpq]
  exact h p hp

/-- A group of such amounts vanishes only if its total is zero. -/
lemma Group.Reports.isZero_of_vanishes {order : GroupOrder} {n : ℕ} {ps : List Posting} {g : Group}
    (h : Group.Reports .lossless none order n ps g) (places : Posting.InPlaces ps)
    (hg : g.total.vanishesAt Group.zeroPlaces = true) : g.total.isZero = true := by
  refine Decimal.isZero_of_vanishesAt hg ?_
  rw [h.value_total]
  apply Addable.exists_sum_eq
  intro x hx
  obtain ⟨q, hq, rfl⟩ := List.mem_map.1 hx
  exact places q hq

namespace Consolidation

variable {plan : Plan} {p : Position} {levels : List Level} {a a' t : Decimal} {g g' : Group}
  {gs : List Group} {cur : String} {ps : List Posting} {order : GroupOrder}

/-! ### Converted totals of pruned groups -/

/-- Pruning inside of a group keeps its converted total. -/
def PruneKeeps (plan : Plan) (p : Position) (levels : List Level) (g : Group) : Prop :=
  ∀ t, convertedTotal .lossless plan p levels g = .ok (some t) →
    ∃ t', convertedTotal .rounding plan p levels g.prune = .ok (some t') ∧ t.Alike t'

/-- A group that is pruned itself has come to zero. -/
def VanishesAtZero (plan : Plan) (p : Position) (levels : List Level) (g : Group) : Prop :=
  ∀ t, convertedTotal .lossless plan p levels g = .ok (some t) →
    g.total.vanishesAt Group.zeroPlaces = true → t.isZero = true

/-- If both hold for the parts of a group, pruning keeps their sum. -/
lemma convertedSum_pruneAll
    (keeps : ∀ g ∈ gs, PruneKeeps plan (p.enter levels.head? g.key) levels.tail g)
    (zero : ∀ g ∈ gs, VanishesAtZero plan (p.enter levels.head? g.key) levels.tail g)
    (ha : a.Alike a') (h : convertedSum .lossless plan p levels (some a) gs = .ok (some t)) :
    ∃ t', convertedSum .rounding plan p levels (some a') (Group.pruneAll gs) = .ok (some t') ∧
      t.Alike t' := by
  induction gs generalizing a a' with
  | nil =>
    rw [convertedSum_nil, Except.ok.injEq, Option.some.injEq] at h
    exact ⟨a', by rw [Group.pruneAll, convertedSum_nil], h ▸ ha⟩
  | cons g gs ih =>
    obtain ⟨hkeeps, keeps⟩ := List.forall_mem_cons.1 keeps
    obtain ⟨hzero, zero⟩ := List.forall_mem_cons.1 zero
    obtain ⟨x, b, hx, hb, h⟩ := convertedSum_cons_eq_some.1 h
    have hadd := (Arithmetic.lossless_add.1 hb).1
    by_cases hvanishes : g.total.vanishesAt Group.zeroPlaces = true
    · -- the part is left out, and so is the addition of its zero
      rw [Group.pruneAll_cons_of_vanishes hvanishes]
      have hxzero : x.isZero = true := hzero x hx hvanishes
      exact ih keeps zero ((Decimal.alike_of_add_zero hxzero hadd).trans ha) h
    · rw [Group.pruneAll_cons_of_stays hvanishes]
      obtain ⟨x', hx', hlike⟩ := hkeeps x hx
      obtain ⟨b', hb', hlike'⟩ := ha.add hlike hadd
      obtain ⟨t', ht', hlike''⟩ := ih keeps zero hlike' h
      refine ⟨t', convertedSum_cons_eq_some.2 ⟨x', b', ?_, hb', ht'⟩, hlike''⟩
      rwa [Group.key_prune]

/-- Then pruning inside of the group keeps its converted total. If nothing is left inside, the group is
undivided now, and its own total is converted. -/
lemma PruneKeeps.of_parts (hdivided : g.children ≠ [])
    (keeps : ∀ g' ∈ g.children, PruneKeeps plan (p.enter levels.head? g'.key) levels.tail g')
    (zero : ∀ g' ∈ g.children, VanishesAtZero plan (p.enter levels.head? g'.key) levels.tail g')
    (nothing : (∀ g' ∈ g.children, g'.total.vanishesAt Group.zeroPlaces = true) →
      ∃ t', (·.1) <$> convertTotal .rounding plan p g.total = .ok (some t') ∧ t'.isZero = true) :
    PruneKeeps plan p levels g := by
  intro t ht
  rw [convertedTotal_node hdivided] at ht
  obtain ⟨t', ht', hlike⟩ := convertedSum_pruneAll keeps zero (.inl rfl) ht
  -- without parts that are left, the group is undivided now
  by_cases hall : Group.pruneAll g.children = []
  · rw [hall, convertedSum_nil, Except.ok.injEq, Option.some.injEq] at ht'
    have htzero : t.isZero = true := by
      rw [Decimal.isZero_iff, hlike.value_eq, ← ht', Decimal.value_zero]
    obtain ⟨x, hx, hxzero⟩ := nothing (Group.pruneAll_eq_nil.1 hall)
    refine ⟨x, ?_, .inr ⟨htzero, hxzero⟩⟩
    rw [convertedTotal_leaf (by rwa [Group.children_prune]), Group.total_prune, hx]
  · refine ⟨t', ?_, hlike⟩
    rw [convertedTotal_node (by rwa [Group.children_prune]), Group.children_prune, ht']

/-! ### Groups in one currency -/

/-- In one currency, what has a total of zero comes to zero at any rate. -/
lemma InOneCurrency.vanishesAtZero (h : InOneCurrency order levels cur p ps g)
    (places : Posting.InPlaces ps) : VanishesAtZero plan p levels g := by
  intro t ht hvanishes
  obtain ⟨rate?, _, hvalue⟩ := h.value_convertedTotal ht
  have hzero := h.reports.isZero_of_vanishes places hvanishes
  rw [Decimal.isZero_iff, hvalue, Decimal.isZero_iff.1 hzero, zero_mul]

/-- An undivided group is not touched by pruning. -/
lemma InOneCurrency.pruneKeeps_of_undivided (h : InOneCurrency order levels cur p ps g)
    (undivided : g.children = []) : PruneKeeps plan p levels g := by
  intro t ht
  obtain ⟨rate?, hrate, ht⟩ := (convertedTotal_leaf_eq_some undivided h.currency_eq).1 ht
  have undivided' : g.prune.children = [] := by rw [Group.children_prune, undivided, Group.pruneAll]
  refine ⟨t, (convertedTotal_leaf_eq_some undivided' h.currency_eq).2 ⟨rate?, hrate, ?_⟩, .inl rfl⟩
  rw [Group.total_prune]
  exact atRate_confirmed Arithmetic.lossless_refines_rounding rate? g.total ht

/-- If all parts of a group vanish, its total is zero. -/
lemma isZero_of_parts {n : ℕ} (h : Group.Reports .lossless none order (n + 1) ps g)
    (lengths : ∀ q ∈ ps, q.path.length = n + 1) (places : Posting.InPlaces ps)
    (hall : ∀ g' ∈ g.children, g'.total.vanishesAt Group.zeroPlaces = true) :
    g.total.isZero = true := by
  rw [Decimal.isZero_iff, h.value_total_parts lengths]
  apply List.sum_eq_zero
  intro x hx
  obtain ⟨g', hg', rfl⟩ := List.mem_map.1 hx
  have hpart := h.part_of_succ hg'
  exact Decimal.isZero_iff.1 (hpart.isZero_of_vanishes (places.under g'.key) (hall g' hg'))

/-- Pruning inside of a group in one currency keeps its converted total. -/
theorem InOneCurrency.pruneKeeps (h : InOneCurrency order levels cur p ps g)
    (places : Posting.InPlaces ps) : PruneKeeps plan p levels g := by
  induction levels generalizing ps g p with
  | nil =>
    exact h.pruneKeeps_of_undivided h.reports.undivided
  | cons l levels ih =>
    by_cases undivided : g.children = []
    · exact h.pruneKeeps_of_undivided undivided
    · intro t ht
      -- the rate is known from the whole group, since no part may be left
      obtain ⟨rate?, hrate, _⟩ := h.value_convertedTotal ht
      refine PruneKeeps.of_parts undivided ?keeps ?zero ?nothing t ht
      case keeps =>
        intro g' hg'
        exact ih (h.part hg').1 (places.under g'.key)
      case zero =>
        intro g' hg'
        exact (h.part hg').1.vanishesAtZero (places.under g'.key)
      case nothing =>
        intro hall
        have hzero := isZero_of_parts h.reports h.keyed.path_length places hall
        obtain ⟨x, hx, hxzero⟩ := atRate_of_isZero rate? hzero
        exact ⟨x, (convertTotal_eq_some h.currency_eq).2 ⟨rate?, hrate, hx⟩, hxzero⟩

/-! ### Reports by currency -/

/-- The root of a report that is divided by currency first, and by no dates behind it. -/
structure ByCurrency (order : GroupOrder) (levels : List Level) (ps : List Posting) (g : Group) :
    Prop where
  reports : Group.Reports .lossless none order (levels.length + 1) ps g
  keyed : ∀ q ∈ ps, ∃ e v, q.path = (Level.currency :: levels).map (·.key e v)
  dateless : ∀ l ∈ levels, l.period? = none

lemma ByCurrency.path_length (h : ByCurrency order levels ps g) :
    ∀ q ∈ ps, q.path.length = levels.length + 1 := by
  intro q hq
  obtain ⟨e, v, hpath⟩ := h.keyed q hq
  rw [hpath, List.length_map, List.length_cons]

/-- Its parts are in one currency. -/
lemma ByCurrency.part (h : ByCurrency order levels ps g) (hg' : g' ∈ g.children) :
    ∃ cur, InOneCurrency order levels cur (Position.root.enter (some .currency) g'.key)
      (Posting.under g'.key ps) g' := by
  have hkey := (h.reports.mem_keys h.path_length).1 (List.mem_map_of_mem hg')
  obtain ⟨q, hq, hhead⟩ := Posting.mem_nextKeys.1 hkey
  obtain ⟨e, v, hpath⟩ := h.keyed q hq
  rw [hpath, List.map_cons, List.head?_cons, Option.some.injEq] at hhead
  refine ⟨e.currency, h.reports.part_of_succ hg', ?_, h.dateless, by rw [← hhead]; rfl⟩
  intro q' hq'
  obtain ⟨p, hp, hpath', _⟩ := Posting.exists_of_mem_under hq'
  obtain ⟨e', v', hkeys⟩ := h.keyed p hp
  rw [hpath', ← hhead, List.map_cons, List.cons.injEq] at hkeys
  obtain ⟨hcur, hrest⟩ := hkeys
  exact ⟨e', v', (GroupKey.currency.inj hcur).symm, hrest⟩

/-- Pruning keeps the converted total of the whole report. -/
theorem ByCurrency.pruneKeeps (h : ByCurrency order levels ps g) (places : Posting.InPlaces ps) :
    PruneKeeps plan .root (.currency :: levels) g := by
  by_cases undivided : g.children = []
  · intro t ht
    refine ⟨t, ?_, .inl rfl⟩
    rw [convertedTotal_leaf undivided] at ht
    rw [convertedTotal_leaf (by rw [Group.children_prune, undivided, Group.pruneAll]),
      Group.total_prune]
    exact ht
  · refine PruneKeeps.of_parts undivided ?keeps ?zero ?nothing
    case keeps =>
      intro g' hg'
      obtain ⟨cur, hpart⟩ := h.part hg'
      exact hpart.pruneKeeps (places.under g'.key)
    case zero =>
      intro g' hg'
      obtain ⟨cur, hpart⟩ := h.part hg'
      exact hpart.vanishesAtZero (places.under g'.key)
    case nothing =>
      intro hall
      have hzero := isZero_of_parts h.reports h.path_length places hall
      exact ⟨Decimal.zero, by simp [convertTotal, Position.root, hzero], rfl⟩

end Consolidation

end Daybook
