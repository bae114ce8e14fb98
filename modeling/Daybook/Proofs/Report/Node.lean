import Daybook.Proofs.Report.Group

/-!
# Groups inside of groups

`Group.Reaches` goes by keys from a group down to the groups inside of it. Where siblings differ in their
keys (`Group.SiblingsDiffer`), a path leads to one group at most (`Group.Reaches.unique`). So they do in a
tree that reports postings, and what is reached there reports the postings below its path
(`Group.Reports.reaches`).

`Group.withoutConverted` takes the converted totals out of a tree and leaves everything else as it is.
-/

namespace Daybook

namespace Group

variable {A : Arithmetic} {days? : Option (Date × Date)} {order : GroupOrder} {n : ℕ}
  {ps : List Posting} {key : GroupKey} {path rest : List GroupKey} {g c d e : Group}

/-- A group is reached from another one by the keys on the way down to it. -/
inductive Reaches : Group → List GroupKey → Group → Prop where
  | here (g : Group) : Reaches g [] g
  | part {g c d : Group} {path : List GroupKey} (hc : c ∈ g.children) (h : Reaches c path d) :
      Reaches g (c.key :: path) d

@[simp] lemma reaches_nil : g.Reaches [] d ↔ d = g := by
  constructor
  · intro h
    cases h
    rfl
  · rintro rfl
    exact .here d

@[simp] lemma reaches_cons :
    g.Reaches (key :: path) d ↔ ∃ c ∈ g.children, c.key = key ∧ c.Reaches path d := by
  constructor
  · intro h
    cases h with
    | part hc h => exact ⟨_, hc, rfl, h⟩
  · rintro ⟨c, hc, rfl, h⟩
    exact .part hc h

/-- A path in two pieces leads through the group in between. -/
lemma reaches_append : g.Reaches (path ++ rest) d ↔ ∃ e, g.Reaches path e ∧ e.Reaches rest d := by
  induction path generalizing g with
  | nil => simp
  | cons key path ih =>
    simp only [List.cons_append, reaches_cons, ih]
    constructor
    · rintro ⟨c, hc, hkey, e, he, hd⟩
      exact ⟨e, ⟨c, hc, hkey, he⟩, hd⟩
    · rintro ⟨e, ⟨c, hc, hkey, he⟩, hd⟩
      exact ⟨c, hc, hkey, e, he, hd⟩

/-- From an undivided group nothing but itself is reached. -/
lemma Reaches.eq_nil (h : g.Reaches path d) (undivided : g.children = []) : path = [] := by
  cases h with
  | here => rfl
  | part hc => simp [undivided] at hc

/-! ### Siblings -/

/-- No two parts of a group have the same key, here and everywhere below. -/
def SiblingsDiffer (g : Group) : Prop :=
  ∀ path d, g.Reaches path d → (d.children.map Group.key).Nodup

lemma SiblingsDiffer.part (h : g.SiblingsDiffer) (hc : c ∈ g.children) : c.SiblingsDiffer :=
  fun path d hd => h (c.key :: path) d (.part hc hd)

lemma Reaches.unique (differ : g.SiblingsDiffer) (hd : g.Reaches path d) (he : g.Reaches path e) :
    d = e := by
  induction hd with
  | here g => exact (reaches_nil.1 he).symm
  | @part g c d path hc _ ih =>
    obtain ⟨c', hc', hkey, hrest⟩ := reaches_cons.1 he
    obtain rfl := List.inj_on_of_nodup_map (differ [] g (.here g)) hc' hc hkey
    exact ih (differ.part hc') hrest

/-! ### Trees that report postings -/

lemma Reports.nodup_keys (h : Reports A days? order n ps g) : (g.children.map Group.key).Nodup := by
  cases h with
  | leaf => exact List.nodup_nil
  | node _ _ keys_eq _ =>
    show (List.map Group.key _).Nodup
    rw [children, keys_eq]
    exact (GroupKey.arrange_perm _ _).nodup_iff.2 (Posting.nodup_nextKeys ps)

/-- What is reached reports the postings below its path. -/
lemma Reports.reaches (h : Reports A days? order n ps g) (hd : g.Reaches path d) :
    ∃ m, m + path.length = n ∧ Reports A days? order m (Posting.below path ps) d := by
  induction hd generalizing n ps with
  | here g => exact ⟨n, rfl, h⟩
  | part hc _ ih =>
    obtain ⟨m, rfl, hpart⟩ := h.part hc
    obtain ⟨k, rfl, hk⟩ := ih hpart
    exact ⟨k, rfl, hk⟩

lemma Reports.siblingsDiffer (h : Reports A days? order n ps g) : g.SiblingsDiffer := by
  intro path d hd
  obtain ⟨m, _, hpart⟩ := h.reaches hd
  exact hpart.nodup_keys

/-- Some posting goes along the path to whatever is below a group. -/
lemma Reports.below_ne_nil (h : Reports A days? order n ps g) (full : ∀ q ∈ ps, q.path.length = n)
    (hd : g.Reaches path d) (hne : path ≠ []) : Posting.below path ps ≠ [] := by
  induction hd generalizing n ps with
  | here => exact absurd rfl hne
  | @part g c d path hc hd ih =>
    obtain ⟨m, rfl, hpart⟩ := h.part hc
    rw [Posting.below_cons]
    by_cases hpath : path = []
    · rw [hpath, Posting.below_nil, ne_eq, Posting.under_eq_nil_iff, not_not, ← h.mem_keys full]
      exact List.mem_map_of_mem hc
    · exact ih hpart (fun q hq => Posting.path_length_of_mem_under full hq) hpath

/-- An undivided group with postings is at the end of their path. -/
lemma Reports.exists_path_eq (h : Reports A days? order n ps g)
    (full : ∀ q ∈ ps, q.path.length = n) (hd : g.Reaches path d) (undivided : d.children = [])
    (hne : Posting.below path ps ≠ []) : ∃ q ∈ ps, q.path = path := by
  obtain ⟨m, rfl, hpart⟩ := h.reaches hd
  have lengths : ∀ q ∈ Posting.below path ps, q.path.length = m :=
    fun q hq => Posting.path_length_of_mem_below full hq
  obtain rfl : m = 0 := by
    by_contra hm
    obtain ⟨r, hr⟩ := List.exists_mem_of_ne_nil _ hne
    obtain ⟨key, rest, hkey⟩ := List.exists_cons_of_length_eq_add_one
      ((lengths r hr).trans (Nat.succ_pred_eq_of_ne_zero hm).symm)
    have hnext : key ∈ Posting.nextKeys (Posting.below path ps) :=
      Posting.mem_nextKeys.2 ⟨r, hr, by rw [hkey, List.head?_cons]⟩
    rw [← hpart.mem_keys lengths, undivided] at hnext
    cases hnext
  obtain ⟨q, hq, hpath⟩ := Posting.below_ne_nil_iff.1 hne
  exact ⟨q, hq, (hpath.eq_of_length (by rw [full q hq, Nat.zero_add])).symm⟩

/-! ### Trees without converted totals -/

mutual

/-- The group without converted totals, here and everywhere below. -/
def withoutConverted : Group → Group
  | mk key total _ children entries series? =>
    mk key total none (withoutConvertedAll children) entries series?

/-- Several groups without converted totals. -/
def withoutConvertedAll : List Group → List Group
  | []      => []
  | g :: gs => withoutConverted g :: withoutConvertedAll gs

end

lemma withoutConvertedAll_eq_map (gs : List Group) :
    withoutConvertedAll gs = gs.map withoutConverted := by
  induction gs with
  | nil => rfl
  | cons g gs ih => rw [withoutConvertedAll, ih, List.map_cons]

@[simp] lemma key_withoutConverted (g : Group) : g.withoutConverted.key = g.key := by
  cases g
  rfl

@[simp] lemma total_withoutConverted (g : Group) : g.withoutConverted.total = g.total := by
  cases g
  rfl

@[simp] lemma children_withoutConverted (g : Group) :
    g.withoutConverted.children = g.children.map withoutConverted := by
  cases g
  exact withoutConvertedAll_eq_map _

lemma reaches_withoutConverted :
    g.withoutConverted.Reaches path d ↔ ∃ e, g.Reaches path e ∧ d = e.withoutConverted := by
  induction path generalizing g with
  | nil => simp
  | cons key path ih =>
    simp only [reaches_cons, children_withoutConverted, List.mem_map]
    constructor
    · rintro ⟨_, ⟨c, hc, rfl⟩, hkey, hd⟩
      obtain ⟨e, he, rfl⟩ := ih.1 hd
      exact ⟨e, ⟨c, hc, (key_withoutConverted c).symm.trans hkey, he⟩, rfl⟩
    · rintro ⟨e, ⟨c, hc, hkey, he⟩, rfl⟩
      exact ⟨_, ⟨c, hc, rfl⟩, (key_withoutConverted c).trans hkey, ih.2 ⟨e, he, rfl⟩⟩

/-- A report is not converted. -/
lemma Reports.withoutConverted_eq (h : Reports A days? order n ps g) : g.withoutConverted = g := by
  induction h with
  | leaf => rfl
  | node _ _ _ _ ih =>
    rw [withoutConverted, withoutConvertedAll_eq_map, List.map_congr_left ih, List.map_id']

/-- Siblings differ whether they are converted or not. -/
lemma siblingsDiffer_withoutConverted : g.withoutConverted.SiblingsDiffer ↔ g.SiblingsDiffer := by
  have keys : ∀ d : Group, d.withoutConverted.children.map Group.key = d.children.map Group.key := by
    intro d
    rw [children_withoutConverted, List.map_map]
    exact List.map_congr_left fun c _ => key_withoutConverted c
  constructor
  · intro h path d hd
    rw [← keys]
    exact h path _ (reaches_withoutConverted.2 ⟨d, hd, rfl⟩)
  · intro h path d hd
    obtain ⟨e, he, rfl⟩ := reaches_withoutConverted.1 hd
    rw [keys]
    exact h path e he

end Group

end Daybook
