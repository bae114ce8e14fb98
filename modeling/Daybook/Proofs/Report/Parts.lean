import Daybook.Proofs.Report.Balance
import Daybook.Proofs.Report.Converted

/-!
# Parts account for the whole

Every group collects its postings for itself; no total is made out of other totals. Nevertheless they fit
together if the amounts can be added up (`Group.AccountedFor`): a group comes to what its parts come to, the
whole comes to what its undivided groups come to, and each entry that is contributed is listed in one of
these, once.
-/

namespace Daybook

open Contribution

variable {query : ResolvedQuery} {spec : ReportSpec} {days? : Option (Date × Date)} {order : GroupOrder}
  {n : ℕ} {ps : List Posting} {g : Group} {path : List GroupKey}

/-! ### Totals of parts -/

/-- The amounts can be added up without loss, and come to the total. -/
def Decimal.ComeTo (amounts : List Decimal) (total : Decimal) : Prop :=
  ∃ t, Arithmetic.lossless.sum amounts = .ok t ∧ t.sameValue total = true

/-- The sums of parts come to the sum of the whole. -/
lemma Decimal.comeTo_of_parts {amounts : List Decimal} {total : Decimal} {xs : List ℚ}
    (parts : List (List ℚ)) (hamounts : amounts.map Decimal.value = parts.map List.sum)
    (hparts : parts.flatten.Perm xs) (hadd : Addable xs) (htotal : total.value = xs.sum) :
    ComeTo amounts total := by
  have sums : Addable (amounts.map Decimal.value) := by
    rw [hamounts]
    exact (hadd.of_perm hparts.symm).of_flatten
  obtain ⟨t, ht, hv⟩ := Arithmetic.sum_of_addable sums
  refine ⟨t, ht, (sameValue_iff ..).2 ?_⟩
  rw [hv, hamounts, ← List.sum_flatten, hparts.sum_eq, htotal]

/-! ### Postings in parts -/

namespace Posting

variable {β : Type} {f : Posting → β}

/-- What is known of postings apart from their paths is found in the parts as often as in the whole, if all
postings go by one of the keys. -/
lemma map_under_perm {keys : List GroupKey} (hkeys : keys.Nodup)
    (divided : ∀ p ∈ ps, ∃ key ∈ keys, p.path.head? = some key)
    (hf : ∀ p path, f { p with path := path } = f p) :
    (keys.flatMap fun key => (under key ps).map f).Perm (ps.map f) := by
  induction ps with
  | nil => simp
  | cons p ps ih =>
    obtain ⟨⟨first, hfirst, hhead⟩, divided⟩ := List.forall_mem_cons.1 divided
    obtain ⟨path, hpath⟩ := List.head?_eq_some_iff.1 hhead
    have inside : (under first (p :: ps)).map f = f p :: (under first ps).map f := by
      simp [under, enter?, hpath, hf]
    have outside : ∀ keys : List GroupKey, first ∉ keys →
        (keys.flatMap fun key => (under key (p :: ps)).map f)
          = keys.flatMap fun key => (under key ps).map f := by
      intro keys hnot
      refine List.flatMap_congr fun key hkey => ?_
      have hne : first ≠ key := fun h => hnot (h ▸ hkey)
      simp [under, enter?, hpath, hne]
    -- the part with the first key of the posting gets it, wherever that key stands
    obtain ⟨before, after, rfl⟩ := List.append_of_mem hfirst
    have hnot := (List.nodup_middle.1 hkeys).notMem
    rw [List.mem_append, not_or] at hnot
    rw [List.flatMap_append, List.flatMap_cons, inside, outside before hnot.1, outside after hnot.2,
      List.cons_append, List.map_cons]
    refine List.perm_middle.trans (.cons _ ?_)
    rw [List.flatMap_append, List.flatMap_cons] at ih
    exact ih divided

/-- The same for all next keys. -/
lemma map_parts_perm (h : ∀ p ∈ ps, p.path ≠ []) (hf : ∀ p path, f { p with path := path } = f p) :
    ((nextKeys ps).flatMap fun key => (under key ps).map f).Perm (ps.map f) := by
  refine map_under_perm (nodup_nextKeys ps) (fun p hp => ?_) hf
  obtain ⟨key, path, hpath⟩ := List.exists_cons_of_ne_nil (h p hp)
  have hhead : p.path.head? = some key := by rw [hpath, List.head?_cons]
  exact ⟨key, mem_nextKeys.2 ⟨p, hp, hhead⟩, hhead⟩

/-- No posting lies after the last of the days. -/
def Within (days? : Option (Date × Date)) (ps : List Posting) : Prop :=
  ∀ first last, days? = some (first, last) →
    first ≤ last ∧ ∀ p ∈ ps, (DateRange.upTo last).withUndated.contains p.date? = true

lemma Within.below (h : Within days? ps) (path : List GroupKey) : Within days? (below path ps) := by
  intro first last hdays
  obtain ⟨horder, hps⟩ := h first last hdays
  refine ⟨horder, fun q hq => ?_⟩
  rw [below_eq] at hq
  obtain ⟨p, hp, rfl⟩ := List.mem_map.1 hq
  exact hps p (List.mem_of_mem_filter hp)

end Posting

/-! ### Groups in parts -/

namespace Group

/-- With days or without, a group comes to what its postings come to. -/
lemma Reports.value_of_within (h : Reports .rounding days? order n ps g)
    (within : Posting.Within days? ps) (hadd : Addable (ps.map (·.amount.value))) :
    g.total.value = (ps.map (·.amount.value)).sum := by
  cases days? with
  | none =>
    obtain ⟨t, ht, hv⟩ := Posting.exists_sum_below hadd []
    have htotal := Arithmetic.sum_confirmed Arithmetic.lossless_refines_rounding _ ht
    cases htotal.symm.trans h.sum_eq.1
    exact hv
  | some days =>
    obtain ⟨first, last⟩ := days
    obtain ⟨horder, hps⟩ := within first last rfl
    rw [(h.daily horder hadd).1, Posting.sumWhere_eq_sum hps]

/-- Without parts there are no postings that should have gone further. -/
lemma Reports.eq_nil_of_undivided {A : Arithmetic} (h : Reports A days? order n ps g)
    (full : ∀ p ∈ ps, p.path.length = n) (undivided : g.children = []) (hn : n ≠ 0) : ps = [] := by
  obtain ⟨m, rfl⟩ := Nat.exists_eq_succ_of_ne_zero hn
  rw [List.eq_nil_iff_forall_not_mem]
  intro p hp
  obtain ⟨c, hc, _⟩ := h.exists_part full hp
  rw [undivided] at hc
  cases hc

lemma Reports.entries_of_undivided {A : Arithmetic} (h : Reports A days? order n ps g)
    (full : ∀ p ∈ ps, p.path.length = n) (undivided : g.children = []) :
    g.entries = ps.filterMap (·.listed?) := by
  rw [h.entries_eq]
  split <;> rename_i hn
  · rfl
  · rw [h.eq_nil_of_undivided full undivided hn, List.filterMap_nil]

/-- The parts of a group hold its postings, shared out among them. -/
lemma Reports.map_parts_perm {A : Arithmetic} (h : Reports A days? order n ps g)
    (full : ∀ p ∈ ps, p.path.length = n) (divided : g.children ≠ []) {β : Type} {f : Posting → β}
    (hf : ∀ p path, f { p with path := path } = f p) :
    (g.children.flatMap fun c => (Posting.under c.key ps).map f).Perm (ps.map f) := by
  have further : ∀ p ∈ ps, p.path ≠ [] := by
    rintro p hp hpath
    have hn : n = 0 := by rw [← full p hp, hpath, List.length_nil]
    subst hn
    exact divided h.undivided
  have keys : (g.children.flatMap fun c => (Posting.under c.key ps).map f)
      = (g.children.map Group.key).flatMap fun key => (Posting.under key ps).map f := by
    rw [List.flatMap_map]
  rw [keys, h.keys_eq full]
  exact ((GroupKey.arrange_perm _ _).flatMap_right _).trans (Posting.map_parts_perm further hf)

/-- The undivided groups hold all postings, shared out among them. -/
theorem Reports.map_leaves_perm {A : Arithmetic} (h : Reports A days? order n ps g)
    (full : ∀ p ∈ ps, p.path.length = n) {β : Type} {f : Posting → β}
    (hf : ∀ p path, f { p with path := path } = f p) :
    (g.leaves.flatMap fun x => (Posting.below x.1.tail ps).map f).Perm (ps.map f) := by
  induction n generalizing ps g with
  | zero => simp [leaves_of_undivided h.undivided]
  | succ n ih =>
    by_cases divided : g.children = []
    · simp [leaves_of_undivided divided]
    · -- what is below a part of `g` is below it in what that part holds
      have inside : ∀ c ∈ g.children, (c.leaves.flatMap fun x => (Posting.below x.1 ps).map f).Perm
          ((Posting.under c.key ps).map f) := by
        intro c hc
        have steps : (c.leaves.flatMap fun x => (Posting.below x.1 ps).map f)
            = c.leaves.flatMap fun x => (Posting.below x.1.tail (Posting.under c.key ps)).map f := by
          refine List.flatMap_congr fun x hx => ?_
          obtain ⟨rest, hrest, _⟩ := mem_leaves.1 hx
          rw [hrest, Posting.below_cons, List.tail_cons]
        rw [steps]
        exact ih (h.part_of_succ hc) fun q hq => Posting.path_length_of_mem_under full hq
      rw [leaves_of_divided divided, List.flatMap_map, List.flatMap_assoc]
      exact (List.Perm.flatMap_left _ inside).trans (h.map_parts_perm full divided hf)

/-! ### Totals of divided groups -/

section Totals

variable (h : Reports .rounding days? order n ps g) (full : ∀ p ∈ ps, p.path.length = n)
  (within : Posting.Within days? ps) (hadd : Addable (ps.map (·.amount.value)))

include h within hadd

lemma Reports.value_of_reaches {d : Group} (hd : g.Reaches path d) :
    d.total.value = ((Posting.below path ps).map (·.amount.value)).sum := by
  obtain ⟨m, _, hpart⟩ := h.reaches hd
  exact hpart.value_of_within (within.below path)
    (hadd.of_sublist (Posting.amounts_below_sublist path ps))

include full

/-- A divided group comes to what its parts come to. -/
lemma Reports.comeTo_parts (divided : g.children ≠ []) :
    Decimal.ComeTo (g.children.map Group.total) g.total := by
  refine Decimal.comeTo_of_parts
    (g.children.map fun c => (Posting.under c.key ps).map (·.amount.value)) ?_ ?_ hadd
    (h.value_of_within within hadd)
  · rw [List.map_map, List.map_map]
    refine List.map_congr_left fun c hc => ?_
    have reached : g.Reaches [c.key] c := .part hc (.here c)
    exact h.value_of_reaches within hadd reached
  · rw [← List.flatMap_def]
    exact h.map_parts_perm full divided fun _ _ => rfl

/-- A group comes to what the undivided groups in it come to. -/
lemma Reports.comeTo_leaves : Decimal.ComeTo (g.leaves.map (·.2.total)) g.total := by
  refine Decimal.comeTo_of_parts
    (g.leaves.map fun x => (Posting.below x.1.tail ps).map (·.amount.value)) ?_ ?_ hadd
    (h.value_of_within within hadd)
  · rw [List.map_map, List.map_map]
    refine List.map_congr_left fun x hx => ?_
    obtain ⟨rest, hrest, hd, _⟩ := mem_leaves.1 hx
    show x.2.total.value = ((Posting.below x.1.tail ps).map (·.amount.value)).sum
    rw [hrest]
    exact h.value_of_reaches within hadd hd
  · rw [← List.flatMap_def]
    exact h.map_leaves_perm full fun _ _ => rfl

end Totals

/-! ### Undivided groups -/

/-- The undivided groups come off the stack in the order in which they stand in the trees. -/
lemma drain_eq (stack : List Group) : drain stack = (stack.flatMap leaves).map (·.2) := by
  induction stack using drain.induct with
  | case1 => rw [drain, List.flatMap_nil, List.map_nil]
  | case2 g stack undivided ih =>
    have hnil : g.children = [] := List.isEmpty_iff.1 undivided
    rw [drain, if_pos undivided, ih, List.flatMap_cons, leaves_of_undivided hnil, List.map_append,
      List.map_singleton, List.singleton_append]
  | case3 g stack divided ih =>
    have hne : g.children ≠ [] := fun h => divided (List.isEmpty_iff.2 h)
    rw [drain, if_neg divided, ih, List.flatMap_append, List.flatMap_cons, leaves_of_divided hne,
      List.map_append, List.map_append, List.map_map]
    rfl

lemma drain_singleton (g : Group) : drain [g] = g.leaves.map (·.2) := by
  rw [drain_eq, List.flatMap_singleton]

/-- Undivided groups inside of another one stand at the ends of full paths. -/
lemma Reports.length_of_reaches {A : Arithmetic} (h : Reports A days? order n ps g)
    (full : ∀ p ∈ ps, p.path.length = n) {leaf : Group} (hleaf : g.Reaches path leaf)
    (undivided : leaf.children = []) (hne : path ≠ []) : path.length = n := by
  obtain ⟨q, hq, hpath⟩ := h.exists_path_eq full hleaf undivided (h.below_ne_nil full hleaf hne)
  rw [← hpath, full q hq]

/-- The undivided groups list what the postings list. -/
lemma Reports.entries_perm {A : Arithmetic} (h : Reports A days? order n ps g)
    (full : ∀ p ∈ ps, p.path.length = n) :
    (g.leaves.flatMap (·.2.entries)).Perm (ps.filterMap (·.listed?)) := by
  have listed : g.leaves.flatMap (·.2.entries)
      = (g.leaves.flatMap fun x => (Posting.below x.1.tail ps).map (·.listed?)).filterMap id := by
    rw [List.filterMap_flatMap]
    refine List.flatMap_congr fun x hx => ?_
    obtain ⟨rest, hrest, hd, undivided⟩ := mem_leaves.1 hx
    obtain ⟨m, rfl, hpart⟩ := h.reaches hd
    have entries := hpart.entries_of_undivided
      (fun q hq => Posting.path_length_of_mem_below full hq) undivided
    rw [hrest, List.tail_cons, entries, List.filterMap_map]
    rfl
  have listings : ps.filterMap (·.listed?) = (ps.map (·.listed?)).filterMap id := by
    rw [List.filterMap_map]
    rfl
  rw [listed, listings]
  exact (h.map_leaves_perm full fun _ _ => rfl).filterMap id

/-! ### Trees -/

/-- What a tree of groups has to do with the contributions that it reports. -/
structure AccountedFor (spec : ReportSpec) (cs : List Contribution) (root : Group) : Prop where
  /-- A divided group comes to what its parts come to, … -/
  parts : ∀ path g, root.Reaches path g → g.children ≠ [] →
    Decimal.ComeTo (g.children.map Group.total) g.total
  /-- … and the whole comes to what the undivided groups come to. -/
  leaves : Decimal.ComeTo ((drain [root]).map Group.total) root.total
  /-- Undivided groups stand at the ends of full paths, unless there is only the root. -/
  depth : ∀ path leaf, root.Reaches path leaf → leaf.children = [] → path ≠ [] →
    path.length = spec.levels.length
  /-- They list all contributions, each one once. -/
  entries : spec.itemized = true → ((drain [root]).flatMap Group.entries).Perm (cs.map reference)

/-- A tree that reports postings accounts for them. -/
theorem Reports.accountedFor {cs : List Contribution} {root : Group}
    (h : Reports .rounding days? order spec.levels.length ps root)
    (posted : Posted .rounding spec cs ps) (within : Posting.Within days? ps)
    (hadd : Addable (ps.map (·.amount.value))) : root.AccountedFor spec cs where
  parts path g hg divided := by
    obtain ⟨m, hm, hpart⟩ := h.reaches hg
    refine hpart.comeTo_parts (fun q hq => ?_) (within.below path)
      (hadd.of_sublist (Posting.amounts_below_sublist path ps)) divided
    exact Posting.path_length_of_mem_below (fun p hp => (posted.path_length p hp).trans hm.symm) hq
  leaves := by
    rw [drain_singleton, List.map_map]
    exact h.comeTo_leaves posted.path_length within hadd
  depth path leaf hleaf undivided hne := h.length_of_reaches posted.path_length hleaf undivided hne
  entries itemized := by
    have listings := posted.listings
    rw [if_pos itemized] at listings
    rw [drain_singleton, List.flatMap_map, ← listings]
    exact h.entries_perm posted.path_length

end Group

/-! ### Reports -/

/-- A report on amounts that can be added up is there, and its tree reports them up to its last day. -/
lemma exists_reports_of_addable (hdays : spec.span? = .ok days?) (kept : spec.aggregation ≠ .nonZero)
    {vs : List Voucher} (posted : Posted .rounding spec (contributions query spec.contributingRange? vs) ps)
    (hadd : Addable (ps.map (·.amount.value))) :
    ∃ root, subtotal .rounding (vs.map .ok) query spec
        = .ok ⟨spec.levels, spec.aggregation, root⟩ ∧
      Group.Reports .rounding days? spec.order spec.levels.length ps root ∧
      Posting.Within days? ps := by
  rcases ReportSpec.span?_eq_ok.1 hdays with ⟨hdaily, ⟨first, last⟩, hspan, rfl⟩ | ⟨_, rfl⟩
  · rw [ReportSpec.contributingRange?_of_span hdaily hspan] at posted
    obtain ⟨root, hroot, reports⟩ := exists_everyDay hdaily hspan posted hadd
    rw [← hdaily] at hroot
    refine ⟨root, hroot, reports, ?_⟩
    rintro first' last' hsame
    cases hsame
    exact ⟨ReportSpec.le_of_span? hdays _ _ rfl,
      List.filter_eq_self.1 (filter_contains_last hdaily posted)⟩
  · have hps : postings .rounding query spec (VoucherStream.delivered (vs.map .ok)) = .ok ps := by
      rw [VoucherStream.delivered_ok]
      exact mapM_eq_ok.2 posted
    obtain ⟨root, hroot, reports, _⟩ := exists_reports hdays (VoucherStream.failure?_ok vs) hps
      (Posting.fit_of_addable Arithmetic.lossless_refines_rounding hadd)
    rw [if_neg kept] at hroot
    refine ⟨root, hroot, reports, fun first last hnone => ?_⟩
    cases hnone

/-- A report on vouchers whose contributed amounts can be added up is there, and its tree accounts for the
contributions. -/
theorem subtotal_accountedFor (query : ResolvedQuery) (spec : ReportSpec) (vs : List Voucher)
    (days? : Option (Date × Date)) (amounts : List Decimal) (hdays : spec.span? = .ok days?)
    (kept : spec.aggregation ≠ .nonZero)
    (hamounts : (contributions query spec.contributingRange? vs).mapM (·.amount .rounding spec)
      = .ok amounts)
    (hadd : Addable (amounts.map Decimal.value)) :
    ∃ root, subtotal .rounding (vs.map .ok) query spec
        = .ok ⟨spec.levels, spec.aggregation, root⟩ ∧
      root.AccountedFor spec (contributions query spec.contributingRange? vs) := by
  obtain ⟨ps, posted⟩ := exists_posted hamounts
  obtain rfl := Except.ok.inj (hamounts.symm.trans posted.amounts)
  rw [List.map_map] at hadd
  obtain ⟨root, hroot, reports, within⟩ := exists_reports_of_addable hdays kept posted hadd
  exact ⟨root, hroot, reports.accountedFor posted within hadd⟩

/-- What was sold and refunded, by account and currency and with listings, can be added up and is accounted
for. -/
theorem itemizedSum_accountedFor :
    itemizedSum.span? = .ok none ∧ itemizedSum.aggregation ≠ .nonZero ∧
    ∃ amounts, (contributions (.ofTree .all) itemizedSum.contributingRange? [.sale, .refund]).mapM
        (·.amount .rounding itemizedSum) = .ok amounts ∧ Addable (amounts.map Decimal.value) ∧
      ∃ root, subtotal .rounding ([.sale, .refund].map .ok) (.ofTree .all) itemizedSum
          = .ok ⟨[.account, .currency], .sum, root⟩ ∧
        root.AccountedFor itemizedSum
          (contributions (.ofTree .all) itemizedSum.contributingRange? [.sale, .refund]) := by
  obtain ⟨amounts, hamounts, hadd⟩ : ∃ amounts, (contributions (.ofTree .all)
      itemizedSum.contributingRange? [.sale, .refund]).mapM (·.amount .rounding itemizedSum)
        = .ok amounts ∧ Addable (amounts.map Decimal.value) :=
    ⟨_, rfl, Addable.of_mantissas (s := 2) (by decide) (by decide) (by decide)⟩
  exact ⟨rfl, by decide, amounts, hamounts, hadd, subtotal_accountedFor (.ofTree .all) itemizedSum
    [.sale, .refund] none amounts rfl (by decide) hamounts hadd⟩

end Daybook
