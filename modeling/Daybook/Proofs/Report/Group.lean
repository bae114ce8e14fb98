import Daybook.Proofs.Report.Bucket
import Daybook.Proofs.Report.Key

/-!
# Finished groups

`Group.Reports` ties a tree of groups to the postings that it reports: every group has the concluded
tally of its postings, and a part for each of their next keys, in the order that is asked for. This is
what buckets that hold the postings are finished to (`Bucket.Holds.finish`), and what is found at the end
of every path (`Group.Reports.descend`, `Group.Reports.exists_descend_iff`).
-/

namespace Daybook

variable {A : Arithmetic} {days? : Option (Date × Date)} {order : GroupOrder} {n : ℕ}
  {ps : List Posting} {key : GroupKey} {path : List GroupKey} {g c : Group} {b : Bucket}

namespace Bucket

/-! ### Order of groups -/

lemma map_key_arrange (order : GroupOrder) (gs : List Group) :
    (arrange order gs).map Group.key = GroupKey.arrange order (gs.map Group.key) := by
  cases order with
  | firstSeen => rfl
  | sorted => exact List.map_mergeSort fun _ _ _ _ => rfl

@[simp] lemma arrange_nil (order : GroupOrder) : arrange order [] = [] := by
  cases order <;> simp [arrange]

@[simp] lemma mem_arrange {gs : List Group} : g ∈ arrange order gs ↔ g ∈ gs := by
  cases order with
  | firstSeen => rfl
  | sorted => exact List.mem_mergeSort

@[simp] lemma isEmpty_arrange (order : GroupOrder) (gs : List Group) :
    (arrange order gs).isEmpty = gs.isEmpty := by
  rw [Bool.eq_iff_iff, List.isEmpty_iff, List.isEmpty_iff, List.eq_nil_iff_forall_not_mem,
    List.eq_nil_iff_forall_not_mem]
  simp

/-! ### Finishing -/

lemma finishAll_eq_mapM (bs : List Bucket) : finishAll A order bs = bs.mapM (finish A order) := by
  induction bs with
  | nil => rfl
  | cons b bs ih => rw [finishAll, ih, List.mapM_cons]

lemma finish_eq_ok {tally : Tally} {entries : List EntryRef} {children : List Bucket} :
    finish A order (.mk key tally entries children) = .ok g ↔
      ∃ gs total series?, finishAll A order children = .ok gs ∧
        conclude A gs.isEmpty tally = .ok (total, series?) ∧
        g = .mk key total none (arrange order gs) entries series? := by
  simp only [finish, bind_eq_ok, pure_eq_ok, Except.ok.injEq, Prod.exists]
  constructor
  · rintro ⟨gs, hgs, total, series?, hc, rfl⟩
    exact ⟨gs, total, series?, hgs, hc, rfl⟩
  · rintro ⟨gs, total, series?, hgs, hc, rfl⟩
    exact ⟨gs, hgs, total, series?, hc, rfl⟩

lemma key_of_finish (h : finish A order b = .ok g) : g.key = b.key := by
  obtain ⟨key, tally, entries, children⟩ := b
  obtain ⟨gs, total, series?, _, _, rfl⟩ := finish_eq_ok.1 h
  rfl

lemma keys_of_finishAll {bs : List Bucket} {gs : List Group}
    (h : finishAll A order bs = .ok gs) : gs.map Group.key = bs.map Bucket.key := by
  rw [finishAll_eq_mapM, mapM_eq_ok] at h
  induction h with
  | nil => rfl
  | cons hg _ ih => rw [List.map_cons, List.map_cons, key_of_finish hg, ih]

lemma exists_of_mem_finishAll {bs : List Bucket} {gs : List Group}
    (h : finishAll A order bs = .ok gs) (hg : g ∈ gs) : ∃ b ∈ bs, finish A order b = .ok g := by
  rw [finishAll_eq_mapM, mapM_eq_ok] at h
  exact exists_of_mem_forall₂ h hg

lemma exists_finishAll {bs : List Bucket} (h : ∀ b ∈ bs, ∃ g, finish A order b = .ok g) :
    ∃ gs, finishAll A order bs = .ok gs := by
  induction bs with
  | nil => exact ⟨[], rfl⟩
  | cons b bs ih =>
    obtain ⟨⟨g, hg⟩, hbs⟩ := List.forall_mem_cons.1 h
    obtain ⟨gs, hgs⟩ := ih hbs
    exact ⟨g :: gs, by simp [finishAll, hg, hgs]⟩

/-- Without days there is nothing to compute at the end. -/
lemma conclude_of_collect_none {tally : Tally} (h : Tally.collect A none ps = .ok tally)
    (isLeaf : Bool) : ∃ total, A.sum (ps.map (·.amount)) = .ok total ∧
      conclude A isLeaf tally = .ok (total, none) := by
  rw [Tally.collect_none, map_eq_ok] at h
  obtain ⟨total, htotal, rfl⟩ := h
  exact ⟨total, htotal, rfl⟩

/-- With days there is the balance of the last one and, for an undivided group, the series. -/
lemma conclude_daily_eq_ok {t : DailyTotals} {isLeaf : Bool} {total : Decimal}
    {series? : Option DaySeries} : conclude A isLeaf (.daily t) = .ok (total, series?) ↔
      t.total A = .ok total ∧ ((isLeaf = false ∧ series? = none) ∨
        (isLeaf = true ∧ ∃ s, t.series A = .ok s ∧ series? = some s)) := by
  cases isLeaf with
  | false =>
    show (t.total A >>= fun total => .ok (total, none)) = _ ↔ _
    simp only [bind_eq_ok, Except.ok.injEq, Prod.mk.injEq, Bool.false_eq_true, false_and, true_and,
      or_false]
    constructor
    · rintro ⟨_, htotal, rfl, rfl⟩
      exact ⟨htotal, rfl⟩
    · rintro ⟨htotal, rfl⟩
      exact ⟨_, htotal, rfl, rfl⟩
  | true =>
    show ((some <$> t.series A) >>= fun s? => t.total A >>= fun total => .ok (total, s?)) = _ ↔ _
    simp only [bind_eq_ok, map_eq_ok, Except.ok.injEq, Prod.mk.injEq, Bool.true_eq_false, false_and,
      true_and, false_or]
    constructor
    · rintro ⟨_, ⟨s, hs, rfl⟩, _, htotal, rfl, rfl⟩
      exact ⟨htotal, s, hs, rfl⟩
    · rintro ⟨htotal, s, hs, rfl⟩
      exact ⟨_, ⟨s, hs, rfl⟩, _, htotal, rfl, rfl⟩

end Bucket

namespace Group

/-- The group reports postings with `n` more keys. -/
inductive Reports (A : Arithmetic) (days? : Option (Date × Date)) (order : GroupOrder) :
    ℕ → List Posting → Group → Prop where
  | leaf {ps : List Posting} {key : GroupKey} {tally : Tally} {total : Decimal}
      {series? : Option DaySeries} (tally_eq : Tally.collect A days? ps = .ok tally)
      (conclude_eq : Bucket.conclude A true tally = .ok (total, series?)) :
      Reports A days? order 0 ps (.mk key total none [] (ps.filterMap (·.listed?)) series?)
  | node {n : ℕ} {ps : List Posting} {key : GroupKey} {tally : Tally} {total : Decimal}
      {children : List Group} {series? : Option DaySeries}
      (tally_eq : Tally.collect A days? ps = .ok tally)
      (conclude_eq : Bucket.conclude A children.isEmpty tally = .ok (total, series?))
      (keys_eq : children.map Group.key = GroupKey.arrange order (Posting.nextKeys ps))
      (parts : ∀ c ∈ children, Reports A days? order n (Posting.under c.key ps) c) :
      Reports A days? order (n + 1) ps (.mk key total none children [] series?)

end Group

/-- Buckets that hold postings are finished to groups that report them. -/
theorem Bucket.Holds.finish (h : Bucket.Holds A days? n ps b) (hg : b.finish A order = .ok g) :
    Group.Reports A days? order n ps g := by
  induction n generalizing ps b g with
  | zero =>
    obtain ⟨tally_eq⟩ := h
    obtain ⟨gs, total, series?, hgs, hc, rfl⟩ := finish_eq_ok.1 hg
    cases hgs
    rw [arrange_nil]
    exact .leaf tally_eq hc
  | succ n ih =>
    obtain _ | ⟨tally_eq, keys_eq, parts⟩ := h
    obtain ⟨gs, total, series?, hgs, hc, rfl⟩ := finish_eq_ok.1 hg
    refine .node tally_eq (by rwa [isEmpty_arrange]) ?_ ?_
    · rw [map_key_arrange, keys_of_finishAll hgs, keys_eq]
    · intro c hc
      obtain ⟨b, hb, hbc⟩ := exists_of_mem_finishAll hgs (mem_arrange.1 hc)
      rw [key_of_finish hbc]
      exact ih (parts b hb) hbc

/-- They are finished if all tallies can be concluded. -/
lemma Bucket.Holds.exists_finish (h : Bucket.Holds A days? n ps b)
    (hc : ∀ path tally isLeaf, Tally.collect A days? (Posting.below path ps) = .ok tally →
      ∃ r, conclude A isLeaf tally = .ok r) : ∃ g, b.finish A order = .ok g := by
  induction n generalizing ps b with
  | zero =>
    obtain ⟨tally_eq⟩ := h
    obtain ⟨r, hr⟩ := hc [] _ true tally_eq
    exact ⟨_, finish_eq_ok.2 ⟨[], r.1, r.2, rfl, hr, rfl⟩⟩
  | succ n ih =>
    obtain _ | ⟨tally_eq, keys_eq, parts⟩ := h
    have finished : ∀ c ∈ _, ∃ g, Bucket.finish A order c = .ok g := fun c hmem =>
      ih (parts c hmem) fun path => hc (c.key :: path)
    obtain ⟨gs, hgs⟩ := exists_finishAll finished
    obtain ⟨r, hr⟩ := hc [] _ gs.isEmpty tally_eq
    exact ⟨_, finish_eq_ok.2 ⟨gs, r.1, r.2, hgs, hr, rfl⟩⟩

/-! ### What decides on the groups -/

namespace Group

/-- Lists of groups with the same keys are related one by one if groups with the same key are. -/
lemma forall₂_of_map_key_eq {R : Group → Group → Prop} {gs hs : List Group}
    (hkeys : gs.map Group.key = hs.map Group.key)
    (related : ∀ g ∈ gs, ∀ h ∈ hs, g.key = h.key → R g h) : List.Forall₂ R gs hs := by
  induction gs generalizing hs with
  | nil =>
    rw [List.map_eq_nil_iff.1 hkeys.symm]
    exact .nil
  | cons g gs ih =>
    cases hs with
    | nil => cases hkeys
    | cons h hs =>
      obtain ⟨hkey, hkeys⟩ := List.cons.inj hkeys
      refine .cons (related g List.mem_cons_self h List.mem_cons_self hkey) (ih hkeys ?_)
      exact fun a ha b hb => related a (List.mem_cons_of_mem _ ha) b (List.mem_cons_of_mem _ hb)

lemma isEmpty_eq_of_forall₂ {R : Group → Group → Prop} {gs hs : List Group}
    (h : List.Forall₂ R gs hs) : hs.isEmpty = gs.isEmpty := by
  cases h <;> rfl

end Group

/-! ### Groups at the ends of paths -/

namespace Group

lemma mem_of_child? (h : g.child? key = some c) : c ∈ g.children ∧ c.key = key :=
  ⟨List.mem_of_find?_eq_some h, by simpa using List.find?_some h⟩

lemma child?_of_mem (h : c ∈ g.children) : ∃ d, g.child? c.key = some d := by
  rw [← Option.isSome_iff_exists, child?, List.find?_isSome]
  exact ⟨c, h, by simp⟩

@[simp] lemma descend?_nil (g : Group) : g.descend? [] = some g := rfl

lemma descend?_cons (g : Group) (key : GroupKey) (path : List GroupKey) :
    g.descend? (key :: path) = (g.child? key).bind (·.descend? path) := rfl

namespace Reports

lemma part (h : Reports A days? order n ps g) (hc : c ∈ g.children) :
    ∃ m, m + 1 = n ∧ Reports A days? order m (Posting.under c.key ps) c := by
  cases h with
  | leaf => cases hc
  | node _ _ _ parts => exact ⟨_, rfl, parts c hc⟩

lemma part_of_succ (h : Reports A days? order (n + 1) ps g) (hc : c ∈ g.children) :
    Reports A days? order n (Posting.under c.key ps) c := by
  cases h with
  | node _ _ _ parts => exact parts c hc

lemma undivided (h : Reports A days? order 0 ps g) : g.children = [] := by
  cases h
  rfl

/-- A group has what its tally is concluded to. -/
lemma concluded (h : Reports A days? order n ps g) : ∃ tally, Tally.collect A days? ps = .ok tally ∧
    Bucket.conclude A g.isLeaf tally = .ok (g.total, g.series?) := by
  cases h with
  | leaf tally_eq conclude_eq => exact ⟨_, tally_eq, conclude_eq⟩
  | node tally_eq conclude_eq => exact ⟨_, tally_eq, conclude_eq⟩

lemma converted?_eq (h : Reports A days? order n ps g) : g.converted? = none := by
  cases h <;> rfl

/-- Without days a group has the sum of its postings, and nothing else. -/
lemma sum_eq (h : Reports A none order n ps g) :
    A.sum (ps.map (·.amount)) = .ok g.total ∧ g.converted? = none ∧ g.series? = none := by
  obtain ⟨tally, tally_eq, conclude_eq⟩ := h.concluded
  obtain ⟨t, ht, hc⟩ := Bucket.conclude_of_collect_none tally_eq g.isLeaf
  obtain ⟨htotal, hseries⟩ := Prod.mk.inj (Except.ok.inj (hc.symm.trans conclude_eq))
  exact ⟨htotal ▸ ht, h.converted?_eq, hseries.symm⟩

lemma entries_eq (h : Reports A days? order n ps g) :
    g.entries = if n = 0 then ps.filterMap (·.listed?) else [] := by
  cases h <;> rfl

/-- A group has its next keys in the order that is asked for. -/
lemma keys_eq (h : Reports A days? order n ps g) (hp : ∀ p ∈ ps, p.path.length = n) :
    g.children.map Group.key = GroupKey.arrange order (Posting.nextKeys ps) := by
  cases h with
  | leaf =>
    rw [Posting.nextKeys_eq_nil hp]
    cases order <;> simp [children, GroupKey.arrange]
  | node _ _ keys_eq _ => exact keys_eq

/-- A group comes to what its postings come to. -/
lemma value_total (h : Reports .lossless none order n ps g) :
    g.total.value = (ps.map (·.amount.value)).sum := by
  rw [Arithmetic.value_of_sum h.sum_eq.1, List.map_map]
  rfl

/-- A divided group comes to what its parts come to. -/
lemma value_total_parts (h : Reports .lossless none order (n + 1) ps g)
    (hp : ∀ p ∈ ps, p.path.length = n + 1) :
    g.total.value = (g.children.map (·.total.value)).sum := by
  -- in terms of keys, since the parts stand in the order of the keys and not of the postings
  have parts : g.children.map (·.total.value) = (g.children.map Group.key).map fun key =>
      ((Posting.under key ps).map (·.amount.value)).sum := by
    rw [List.map_map]
    apply List.map_congr_left
    intro c hc
    exact (h.part_of_succ hc).value_total
  have divided : ∀ p ∈ ps, p.path ≠ [] := fun p hmem => List.ne_nil_of_length_eq_add_one (hp p hmem)
  rw [parts, h.keys_eq hp, ((GroupKey.arrange_perm _ _).map _).sum_eq, Posting.sum_parts divided,
    h.value_total]

/-- At the end of a path stands a group that reports the postings below it. -/
theorem descend (h : Reports A days? order n ps g) {d : Group} (hd : g.descend? path = some d) :
    ∃ m, m + path.length = n ∧ Reports A days? order m (Posting.below path ps) d := by
  induction path generalizing n ps g with
  | nil =>
    cases hd
    exact ⟨n, rfl, h⟩
  | cons key path ih =>
    rw [descend?_cons, Option.bind_eq_some_iff] at hd
    obtain ⟨c, hc, hd⟩ := hd
    obtain ⟨hmem, rfl⟩ := mem_of_child? hc
    obtain ⟨m, rfl, hpart⟩ := h.part hmem
    obtain ⟨k, rfl, hk⟩ := ih hpart hd
    exact ⟨k, rfl, hk⟩

/-- A group has a part for each of its next keys, and no other ones. -/
lemma mem_keys (h : Reports A days? order n ps g) (hp : ∀ p ∈ ps, p.path.length = n) :
    key ∈ g.children.map Group.key ↔ key ∈ Posting.nextKeys ps := by
  rw [h.keys_eq hp, GroupKey.mem_arrange]

/-- Every posting with a further key goes into a part. -/
lemma exists_part (h : Reports A days? order (n + 1) ps g) (hp : ∀ p ∈ ps, p.path.length = n + 1)
    {p : Posting} (hmem : p ∈ ps) : ∃ c ∈ g.children, ∃ path, p.path = c.key :: path := by
  obtain ⟨key, path, hpath⟩ := List.exists_cons_of_length_eq_add_one (hp p hmem)
  have hkey : key ∈ Posting.nextKeys ps :=
    Posting.mem_nextKeys.2 ⟨p, hmem, by rw [hpath, List.head?_cons]⟩
  obtain ⟨c, hc, rfl⟩ := List.mem_map.1 ((h.mem_keys hp).2 hkey)
  exact ⟨c, hc, path, hpath⟩

/-- There is a group at the end of a path if a posting goes along it. -/
theorem exists_descend_iff (h : Reports A days? order n ps g)
    (hp : ∀ p ∈ ps, p.path.length = n) :
    (∃ d, g.descend? path = some d) ↔ path = [] ∨ Posting.below path ps ≠ [] := by
  induction path generalizing n ps g with
  | nil => simp
  | cons key path ih =>
    simp only [descend?_cons, Option.bind_eq_some_iff, Posting.below_cons, reduceCtorEq, false_or]
    constructor
    · -- (→) the group lies in the part with the first key
      rintro ⟨d, c, hc, hd⟩
      obtain ⟨hmem, rfl⟩ := mem_of_child? hc
      obtain ⟨m, rfl, hpart⟩ := h.part hmem
      rcases (ih hpart fun q hq => Posting.path_length_of_mem_under hp hq).1 ⟨d, hd⟩ with rfl | h'
      · -- the part itself, which is there because of a posting with its key
        intro hnil
        rw [Posting.below_nil, Posting.under_eq_nil_iff, ← h.mem_keys hp] at hnil
        exact hnil (List.mem_map_of_mem hmem)
      · exact h'
    · -- (←) a posting has the first key, so there is such a part
      intro hbelow
      have hkey : key ∈ Posting.nextKeys ps := by
        by_contra hnot
        rw [Posting.under_eq_nil_iff.2 hnot, Posting.below_of_nil] at hbelow
        exact hbelow rfl
      rw [← h.mem_keys hp] at hkey
      obtain ⟨c', hmem', rfl⟩ := List.mem_map.1 hkey
      obtain ⟨c, hc⟩ := child?_of_mem hmem'
      obtain ⟨hmem, hckey⟩ := mem_of_child? hc
      obtain ⟨m, rfl, hpart⟩ := h.part hmem
      rw [← hckey] at hbelow
      obtain ⟨d, hd⟩ :=
        (ih hpart fun q hq => Posting.path_length_of_mem_under hp hq).2 (.inr hbelow)
      exact ⟨d, c, hc, hd⟩

end Reports

end Group

end Daybook
