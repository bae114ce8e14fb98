import Daybook.Proofs.Report.Posting

/-!
# Buckets while postings come in

`Bucket.Holds` ties a tree of buckets to the postings that went into it: every bucket has the tally of
its postings, and a bucket for each of their next keys. One more posting keeps it (`Bucket.Holds.post`),
and so does a run of them (`Bucket.Holds.postAll`). A run ends well exactly if all tallies do
(`Bucket.Holds.exists_postAll`, `Bucket.Holds.fits`).
-/

namespace Daybook

/-- The tallies of the postings below all paths end well. -/
def Posting.Fit (A : Arithmetic) (days? : Option (Date × Date)) (ps : List Posting) : Prop :=
  ∀ path, ∃ t, Tally.collect A days? (below path ps) = .ok t

/-- Without days these are the sums of their amounts. -/
lemma Posting.fit_none_iff {A : Arithmetic} {ps : List Posting} :
    Fit A none ps ↔ ∀ path, ∃ t, A.sum ((below path ps).map (·.amount)) = .ok t := by
  apply forall_congr'
  intro path
  simp only [Tally.collect_none, map_eq_ok, exists_comm (α := Tally), exists_eq_right']

lemma Posting.fit_of_addable {A : Arithmetic} {ps : List Posting} (hA : Arithmetic.lossless.Refines A)
    (h : Addable (ps.map (·.amount.value))) : Fit A none ps := by
  apply fit_none_iff.2
  intro path
  obtain ⟨t, ht, _⟩ := exists_sum_below h path
  exact ⟨t, Arithmetic.sum_confirmed hA _ ht⟩

namespace Bucket

variable {A : Arithmetic} {days? : Option (Date × Date)} {n : ℕ} {ps qs : List Posting}
  {p : Posting} {b b' : Bucket}

/-- Put a posting into its buckets. -/
def post (A : Arithmetic) (days? : Option (Date × Date)) (b : Bucket) (p : Posting) :
    Except Overflow Bucket :=
  b.insert A days? p.date? p.amount p.listed? p.path

/-- The bucket is what has become of postings with `n` more keys: it has their tally, and parts for
their next keys; at the end of the path it keeps their listings. -/
inductive Holds (A : Arithmetic) (days? : Option (Date × Date)) : ℕ → List Posting → Bucket → Prop
    where
  | leaf {ps : List Posting} {key : GroupKey} {tally : Tally}
      (tally_eq : Tally.collect A days? ps = .ok tally) :
      Holds A days? 0 ps (.mk key tally (ps.filterMap (·.listed?)) [])
  | node {n : ℕ} {ps : List Posting} {key : GroupKey} {tally : Tally} {children : List Bucket}
      (tally_eq : Tally.collect A days? ps = .ok tally)
      (keys_eq : children.map Bucket.key = Posting.nextKeys ps)
      (parts : ∀ c ∈ children, Holds A days? n (Posting.under c.key ps) c) :
      Holds A days? (n + 1) ps (.mk key tally [] children)

lemma holds_empty (A : Arithmetic) (days? : Option (Date × Date)) (n : ℕ) (key : GroupKey) :
    Holds A days? n [] (empty days? key) := by
  cases n with
  | zero => exact .leaf rfl
  | succ n => exact .node rfl rfl nofun

/-! ### Changing one part -/

section updateChild

variable {P Q : Bucket → Prop} {key : GroupKey} {change : Bucket → Except Overflow Bucket}
  {bs bs' : List Bucket}

/-- A change of the part with a key keeps the others and their order; a new part comes last. -/
lemma updateChild_eq_ok (nodup : (bs.map Bucket.key).Nodup) (before : ∀ b ∈ bs, P b)
    (fresh : key ∉ bs.map Bucket.key → P (empty days? key))
    (changed : ∀ b b', b.key = key → P b → change b = .ok b' → Q b' ∧ b'.key = key)
    (others : ∀ b, b.key ≠ key → P b → Q b)
    (h : updateChild days? key change bs = .ok bs') :
    (∀ b ∈ bs', Q b) ∧ bs'.map Bucket.key =
      if key ∈ bs.map Bucket.key then bs.map Bucket.key else bs.map Bucket.key ++ [key] := by
  induction bs generalizing bs' with
  | nil =>
    simp only [updateChild, bind_eq_ok, pure_eq_ok, Except.ok.injEq] at h
    obtain ⟨b', hb', rfl⟩ := h
    obtain ⟨hQ, hkey⟩ := changed _ b' rfl (fresh (by simp)) hb'
    simp [hQ, hkey]
  | cons b bs ih =>
    rw [List.map_cons, List.nodup_cons] at nodup
    obtain ⟨hb, hbs⟩ := List.forall_mem_cons.1 before
    simp only [updateChild] at h
    split at h <;> rename_i hkey <;> simp only [bind_eq_ok, pure_eq_ok, Except.ok.injEq] at h
    · -- the part is found: no later one has its key
      obtain ⟨b', hb', rfl⟩ := h
      obtain ⟨hQ, hkey'⟩ := changed b b' hkey hb hb'
      refine ⟨List.forall_mem_cons.2 ⟨hQ, fun c hc => others c ?_ (hbs c hc)⟩, ?_⟩
      · rintro rfl
        exact nodup.1 (hkey ▸ List.mem_map_of_mem hc)
      · simp [hkey, hkey']
    · -- the part is further back, or comes in as the last one
      obtain ⟨cs, hcs, rfl⟩ := h
      obtain ⟨hQ, hkeys⟩ := ih nodup.2 hbs
        (fun hnew => fresh (by simpa [Ne.symm hkey] using hnew)) hcs
      refine ⟨List.forall_mem_cons.2 ⟨others b hkey hb, hQ⟩, ?_⟩
      rw [List.map_cons, hkeys, List.map_cons]
      by_cases hmem : key ∈ bs.map Bucket.key
      · rw [if_pos hmem, if_pos (List.mem_cons_of_mem _ hmem)]
      · rw [if_neg hmem, if_neg (by simpa [Ne.symm hkey] using hmem), List.cons_append]

lemma exists_updateChild (before : ∀ b ∈ bs, P b)
    (fresh : key ∉ bs.map Bucket.key → P (empty days? key))
    (changes : ∀ b, b.key = key → P b → ∃ b', change b = .ok b') :
    ∃ bs', updateChild days? key change bs = .ok bs' := by
  induction bs with
  | nil =>
    obtain ⟨b', hb'⟩ := changes _ rfl (fresh (by simp))
    exact ⟨[b'], by simp [updateChild, hb']⟩
  | cons b bs ih =>
    obtain ⟨hb, hbs⟩ := List.forall_mem_cons.1 before
    simp only [updateChild]
    split <;> rename_i hkey
    · obtain ⟨b', hb'⟩ := changes b hkey hb
      exact ⟨b' :: bs, by simp [hb']⟩
    · obtain ⟨cs, hcs⟩ := ih hbs fun hnew => fresh (by simpa [Ne.symm hkey] using hnew)
      exact ⟨b :: cs, by simp [hcs]⟩

end updateChild

/-! ### One more posting -/

lemma Holds.nodup_keys {children : List Bucket}
    (keys_eq : children.map Bucket.key = Posting.nextKeys ps) :
    (children.map Bucket.key).Nodup :=
  keys_eq ▸ Posting.nodup_nextKeys ps

/-- A part that is not there yet would have no postings. -/
lemma Holds.fresh {children : List Bucket} {key : GroupKey}
    (keys_eq : children.map Bucket.key = Posting.nextKeys ps)
    (hnew : key ∉ children.map Bucket.key) :
    Holds A days? n (Posting.under key ps) (empty days? key) := by
  rw [Posting.under_eq_nil_iff.2 (keys_eq ▸ hnew)]
  exact holds_empty A days? n key

/-- A posting leaves a tree of buckets that holds it, too. -/
theorem Holds.post (h : Holds A days? n ps b) (hp : p.path.length = n)
    (hb : b.post A days? p = .ok b') : Holds A days? n (ps ++ [p]) b' ∧ b'.key = b.key := by
  -- induction on the number of keys: a posting goes on with one key less in one of the parts
  induction n generalizing ps p b b' with
  | zero =>
    obtain ⟨tally_eq⟩ := h
    have hpath : p.path = [] := List.length_eq_zero_iff.1 hp
    simp only [Bucket.post, hpath, insert, bind_eq_ok] at hb
    obtain ⟨t, ht, hb⟩ := hb
    cases hb
    refine ⟨?_, rfl⟩
    have entries : ps.filterMap (·.listed?) ++ p.listed?.toList
        = (ps ++ [p]).filterMap (·.listed?) := by
      cases hl : p.listed? <;> simp [hl]
    rw [entries]
    exact .leaf (by rw [Tally.collect_concat, tally_eq, ok_bind, ht])
  | succ n ih =>
    obtain _ | ⟨tally_eq, keys_eq, parts⟩ := h
    rename_i key tally children
    obtain ⟨next, path, hpath⟩ := List.exists_cons_of_length_eq_add_one hp
    simp only [Bucket.post, hpath, insert, bind_eq_ok] at hb
    obtain ⟨t, ht, cs, hcs, hb⟩ := hb
    cases hb
    obtain ⟨parts', keys'⟩ := updateChild_eq_ok
      (P := fun c => Holds A days? n (Posting.under c.key ps) c)
      (Q := fun c => Holds A days? n (Posting.under c.key (ps ++ [p])) c)
      (Holds.nodup_keys keys_eq) parts (Holds.fresh keys_eq)
      (fun c c' hkey hc hc' => by
        obtain ⟨hc', hkey'⟩ := ih (p := { p with path := path }) hc (by simpa [hpath] using hp) hc'
        rw [hkey', hkey, Posting.under_concat_self hpath]
        exact ⟨hkey ▸ hc', rfl⟩)
      (fun c hkey hc => by rwa [Posting.under_concat_of_ne hpath hkey]) hcs
    refine ⟨.node ?_ ?_ parts', rfl⟩
    · rw [Tally.collect_concat, tally_eq, ok_bind, ht]
    · rw [keys', keys_eq, Posting.nextKeys_concat hpath]

/-- A posting goes in if all tallies that it belongs to end well. -/
lemma Holds.exists_post (h : Holds A days? n ps b) (hp : p.path.length = n)
    (hfit : Posting.Fit A days? (ps ++ [p])) : ∃ b', b.post A days? p = .ok b' := by
  induction n generalizing ps p b with
  | zero =>
    obtain ⟨tally_eq⟩ := h
    have hpath : p.path = [] := List.length_eq_zero_iff.1 hp
    obtain ⟨t, ht⟩ := hfit []
    rw [Posting.below_nil, Tally.collect_concat, tally_eq, ok_bind] at ht
    exact ⟨_, by simp only [Bucket.post, hpath, insert, ht, ok_bind]; rfl⟩
  | succ n ih =>
    obtain _ | ⟨tally_eq, keys_eq, parts⟩ := h
    obtain ⟨next, path, hpath⟩ := List.exists_cons_of_length_eq_add_one hp
    obtain ⟨t, ht⟩ := hfit []
    rw [Posting.below_nil, Tally.collect_concat, tally_eq, ok_bind] at ht
    have changes : ∀ c : Bucket, c.key = next → Holds A days? n (Posting.under c.key ps) c →
        ∃ c', insert A days? p.date? p.amount p.listed? path c = .ok c' := by
      intro c hkey hc
      refine ih (p := { p with path := path }) hc (by simpa [hpath] using hp) fun rest => ?_
      obtain ⟨t, ht⟩ := hfit (next :: rest)
      rw [Posting.below_cons, Posting.under_concat_self hpath] at ht
      exact ⟨t, hkey ▸ ht⟩
    obtain ⟨cs, hcs⟩ := exists_updateChild parts (Holds.fresh keys_eq) changes
    exact ⟨_, by simp only [Bucket.post, hpath, insert, ht, hcs, ok_bind]; rfl⟩

/-! ### A run of postings -/

/-- A run of postings leaves a tree of buckets that holds all of them. -/
theorem Holds.postAll (h : Holds A days? n ps b) (hq : ∀ q ∈ qs, q.path.length = n)
    (hb : qs.foldlM (Bucket.post A days?) b = .ok b') :
    Holds A days? n (ps ++ qs) b' ∧ b'.key = b.key := by
  induction qs generalizing ps b with
  | nil =>
    cases hb
    simpa using h
  | cons q qs ih =>
    obtain ⟨hq, hqs⟩ := List.forall_mem_cons.1 hq
    rw [List.foldlM_cons, bind_eq_ok] at hb
    obtain ⟨c, hc, hb⟩ := hb
    obtain ⟨h, hkey⟩ := h.post hq hc
    obtain ⟨h, hkey'⟩ := ih h hqs hb
    exact ⟨by simpa using h, hkey'.trans hkey⟩

lemma Holds.exists_postAll (h : Holds A days? n ps b) (hq : ∀ q ∈ qs, q.path.length = n)
    (hfit : Posting.Fit A days? (ps ++ qs)) : ∃ b', qs.foldlM (Bucket.post A days?) b = .ok b' := by
  induction qs generalizing ps b with
  | nil => exact ⟨b, rfl⟩
  | cons q qs ih =>
    obtain ⟨hq, hqs⟩ := List.forall_mem_cons.1 hq
    have hfit' : Posting.Fit A days? ((ps ++ [q]) ++ qs) := by simpa using hfit
    obtain ⟨c, hc⟩ := h.exists_post hq fun path => by
      obtain ⟨t, ht⟩ := hfit' path
      rw [Posting.below_append] at ht
      exact Tally.collect_of_append ht
    obtain ⟨b', hb'⟩ := ih (h.post hq hc).1 hqs hfit'
    exact ⟨b', by rw [List.foldlM_cons, hc, ok_bind, hb']⟩

/-- Where the buckets are there, the tallies have ended well. -/
lemma Holds.fits (h : Holds A days? n ps b) (hp : ∀ p ∈ ps, p.path.length = n) :
    Posting.Fit A days? ps := by
  intro path
  induction path generalizing n ps b with
  | nil => cases h <;> exact ⟨_, ‹_›⟩
  | cons key path ih =>
    -- a path that leaves the tree has no postings below it
    by_cases hkey : key ∈ Posting.nextKeys ps
    · cases h with
      | leaf =>
        obtain ⟨p, hmem, hhead⟩ := Posting.mem_nextKeys.1 hkey
        simp [List.length_eq_zero_iff.1 (hp p hmem)] at hhead
      | node tally_eq keys_eq parts =>
        obtain ⟨c, hc, rfl⟩ := List.mem_map.1 (keys_eq ▸ hkey)
        exact ih (parts c hc) fun q hq => Posting.path_length_of_mem_under hp hq
    · rw [Posting.below_cons, Posting.under_eq_nil_iff.2 hkey, Posting.below_of_nil]
      exact ⟨_, rfl⟩

end Bucket

end Daybook
