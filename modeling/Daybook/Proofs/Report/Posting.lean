import Daybook.Proofs.Decimal.Lossless
import Daybook.Proofs.Voucher.Distinct
import Daybook.Report.Subtotal

/-!
# Postings

A `Posting` is an amount on its way into a report, with the keys that lead to its group. A group at the
end of a path gets the postings `below` the path: those whose keys begin with it (`below_eq`). The parts
of a group have the keys that come next in its postings (`nextKeys`).

Postings go into a `Tally` one by one (`Tally.collect`).
-/

namespace Daybook

/-- An amount on its way into a report: the date of its voucher, the keys of its groups, and its
listing. -/
structure Posting where
  date? : Option Date
  amount : Decimal
  path : List GroupKey
  listed? : Option EntryRef

namespace Posting

/-! ### Paths -/

/-- The posting inside the part with a key, if it belongs there. -/
def enter? (key : GroupKey) (p : Posting) : Option Posting :=
  match p.path with
  | []         => none
  | k :: path  => if k = key then some { p with path := path } else none

/-- The postings of the part with a key. -/
def under (key : GroupKey) (ps : List Posting) : List Posting := ps.filterMap (enter? key)

/-- The postings of the group at the end of a path. -/
def below : List GroupKey → List Posting → List Posting
  | [],          ps => ps
  | key :: path, ps => below path (under key ps)

/-- The keys of the parts that postings belong to, in the order in which they come up. -/
def nextKeys (ps : List Posting) : List GroupKey := Voucher.distinct (ps.filterMap (·.path.head?))

variable {key : GroupKey} {path : List GroupKey} {p : Posting} {ps qs : List Posting}

@[simp] lemma below_nil (ps : List Posting) : below [] ps = ps := rfl

@[simp] lemma below_cons : below (key :: path) ps = below path (under key ps) := rfl

lemma enter?_eq_some {q : Posting} :
    enter? key p = some q ↔ p.path = key :: q.path ∧ q = { p with path := q.path } := by
  unfold enter?
  constructor
  · intro h
    split at h
    · cases h
    · split at h
      · rename_i hpath hkey
        cases h
        exact ⟨by rw [hpath, hkey], rfl⟩
      · cases h
  · rintro ⟨hpath, hq⟩
    rw [hpath, hq]
    simp

lemma under_append : under key (ps ++ qs) = under key ps ++ under key qs :=
  List.filterMap_append

lemma below_append : below path (ps ++ qs) = below path ps ++ below path qs := by
  induction path generalizing ps qs with
  | nil => rfl
  | cons key path ih => rw [below_cons, under_append, ih, below_cons, below_cons]

@[simp] lemma under_nil : under key [] = [] := rfl

@[simp] lemma below_of_nil : below path [] = [] := by
  induction path with
  | nil => rfl
  | cons key path ih => exact ih

/-- A posting goes into the part with its first key. -/
lemma under_concat_self (hp : p.path = key :: path) :
    under key (ps ++ [p]) = under key ps ++ [{ p with path := path }] := by
  rw [under_append]
  simp [under, enter?, hp]

/-- It does not touch the other parts. -/
lemma under_concat_of_ne {next : GroupKey} (hp : p.path = next :: path) (hne : key ≠ next) :
    under key (ps ++ [p]) = under key ps := by
  rw [under_append]
  simp [under, enter?, hp, hne.symm]

/-- What is inside of a part comes from a posting with its key. -/
lemma exists_of_mem_under {q : Posting} (hq : q ∈ under key ps) :
    ∃ p ∈ ps, p.path = key :: q.path ∧ q = { p with path := q.path } := by
  obtain ⟨p, hp, hpq⟩ := List.mem_filterMap.1 hq
  exact ⟨p, hp, enter?_eq_some.1 hpq⟩

lemma path_length_of_mem_under {n : ℕ} (h : ∀ p ∈ ps, p.path.length = n + 1) {q : Posting}
    (hq : q ∈ under key ps) : q.path.length = n := by
  obtain ⟨p, hp, hpath, _⟩ := exists_of_mem_under hq
  have := h p hp
  rw [hpath] at this
  simpa using this

/-- The postings below a path are those whose keys begin with it, with these keys dropped. -/
lemma below_eq (path : List GroupKey) (ps : List Posting) :
    below path ps = (ps.filter fun p => path <+: p.path).map
      fun p => { p with path := p.path.drop path.length } := by
  induction path generalizing ps with
  | nil => simp
  | cons key path ih =>
    rw [below_cons, ih, under]
    induction ps with
    | nil => rfl
    | cons p ps ihp =>
      rw [List.filterMap_cons, List.filter_cons]
      rcases hp : p.path with _ | ⟨k, rest⟩
      · simpa [enter?, hp] using ihp
      · by_cases hk : k = key
        · by_cases hrest : path <+: rest <;>
            simp [enter?, hp, hk, hrest, List.cons_prefix_cons] <;> exact ihp
        · simpa [enter?, hp, hk, List.cons_prefix_cons, Ne.symm hk] using ihp

/-- Some posting is below a path if its keys begin with it. -/
lemma below_ne_nil_iff : below path ps ≠ [] ↔ ∃ p ∈ ps, path <+: p.path := by
  rw [below_eq, ne_eq, List.map_eq_nil_iff, List.filter_eq_nil_iff]
  simp

lemma path_length_of_mem_below {n : ℕ} (h : ∀ p ∈ ps, p.path.length = n + path.length) {q : Posting}
    (hq : q ∈ below path ps) : q.path.length = n := by
  rw [below_eq] at hq
  obtain ⟨p, hp, rfl⟩ := List.mem_map.1 hq
  simp [h p (List.mem_of_mem_filter hp)]

lemma amounts_below_sublist (path : List GroupKey) (ps : List Posting) :
    ((below path ps).map (·.amount.value)).Sublist (ps.map (·.amount.value)) := by
  rw [below_eq, List.map_map]
  exact List.filter_sublist.map _

/-! ### Next keys -/

lemma mem_nextKeys : key ∈ nextKeys ps ↔ ∃ p ∈ ps, p.path.head? = some key := by
  simp [nextKeys]

lemma nodup_nextKeys (ps : List Posting) : (nextKeys ps).Nodup := Voucher.nodup_distinct _

/-- Only parts whose keys come up have postings. -/
lemma under_eq_nil_iff : under key ps = [] ↔ key ∉ nextKeys ps := by
  simp only [mem_nextKeys, under, List.filterMap_eq_nil_iff, not_exists, not_and]
  apply forall₂_congr
  intro p _
  unfold enter?
  rcases p.path with _ | ⟨k, rest⟩ <;> simp

lemma nextKeys_eq_nil (h : ∀ p ∈ ps, p.path.length = 0) : nextKeys ps = [] := by
  rw [List.eq_nil_iff_forall_not_mem]
  intro key hkey
  obtain ⟨p, hp, hhead⟩ := mem_nextKeys.1 hkey
  simp [List.length_eq_zero_iff.1 (h p hp)] at hhead

/-- The key of a further posting is added at the end, if it is new. -/
lemma nextKeys_concat (hp : p.path = key :: path) :
    nextKeys (ps ++ [p]) = if key ∈ nextKeys ps then nextKeys ps else nextKeys ps ++ [key] := by
  have keys : (ps ++ [p]).filterMap (·.path.head?) = ps.filterMap (·.path.head?) ++ [key] := by
    simp [hp]
  simp only [nextKeys, keys, Voucher.distinct_concat, Voucher.mem_distinct]

/-! ### Postings in another order -/

lemma under_perm (h : ps.Perm qs) (key : GroupKey) : (under key ps).Perm (under key qs) :=
  h.filterMap _

lemma nextKeys_perm (h : ps.Perm qs) : (nextKeys ps).Perm (nextKeys qs) := by
  rw [List.perm_ext_iff_of_nodup (nodup_nextKeys ps) (nodup_nextKeys qs)]
  intro key
  simp only [mem_nextKeys, h.mem_iff]

end Posting

/-! ### Sums of parts -/

namespace Posting

variable {P Q R : Posting → Bool} {p : Posting} {ps : List Posting}

/-- The sum of the amounts of postings that are as asked. -/
def sumWhere (P : Posting → Bool) (ps : List Posting) : ℚ :=
  ((ps.filter P).map (·.amount.value)).sum

@[simp] lemma sumWhere_nil (P : Posting → Bool) : sumWhere P [] = 0 := rfl

@[simp] lemma sumWhere_cons (P : Posting → Bool) (p : Posting) (ps : List Posting) :
    sumWhere P (p :: ps) = (if P p then p.amount.value else 0) + sumWhere P ps := by
  unfold sumWhere
  rw [List.filter_cons]
  split <;> simp

lemma sumWhere_concat (P : Posting → Bool) (ps : List Posting) (p : Posting) :
    sumWhere P (ps ++ [p]) = sumWhere P ps + if P p then p.amount.value else 0 := by
  induction ps with
  | nil => simp
  | cons q ps ih => rw [List.cons_append, sumWhere_cons, ih, sumWhere_cons, add_assoc]

lemma sumWhere_congr (h : ∀ p ∈ ps, P p = Q p) : sumWhere P ps = sumWhere Q ps := by
  unfold sumWhere
  rw [List.filter_congr h]

lemma sumWhere_eq_zero (h : ∀ p ∈ ps, P p = false) : sumWhere P ps = 0 := by
  unfold sumWhere
  rw [List.filter_eq_nil_iff.2 (by simpa using h)]
  rfl

lemma sumWhere_eq_sum (h : ∀ p ∈ ps, P p = true) :
    sumWhere P ps = (ps.map (·.amount.value)).sum := by
  unfold sumWhere
  rw [List.filter_eq_self.2 h]

lemma sumWhere_of_perm {qs : List Posting} (h : ps.Perm qs) : sumWhere P ps = sumWhere P qs :=
  ((h.filter P).map _).sum_eq

/-- Two kinds of postings that exclude each other are summed up apart. -/
lemma sumWhere_add (h : ∀ p ∈ ps, R p = (P p || Q p)) (apart : ∀ p ∈ ps, P p = true → Q p = false) :
    sumWhere P ps + sumWhere Q ps = sumWhere R ps := by
  induction ps with
  | nil => simp
  | cons p ps ih =>
    obtain ⟨hp, hps⟩ := List.forall_mem_cons.1 h
    obtain ⟨hapart, apart⟩ := List.forall_mem_cons.1 apart
    rw [sumWhere_cons, sumWhere_cons, sumWhere_cons, ← ih hps apart, hp]
    cases hP : P p <;> cases hQ : Q p <;> simp [hP, hQ] at hapart ⊢ <;> ring

/-- Sums over labels that differ are sums over the set of these labels. -/
lemma sum_sumWhere {κ : Type} [DecidableEq κ] (label? : Posting → Option κ) {labels : List κ}
    (hlabels : labels.Nodup) (ps : List Posting) :
    (labels.map fun k => sumWhere (label? · == some k) ps).sum
      = sumWhere (fun p => (label? p).any (· ∈ labels)) ps := by
  induction labels with
  | nil =>
    rw [sumWhere_eq_zero (by intro p _; cases label? p <;> simp)]
    rfl
  | cons k labels ih =>
    rw [List.nodup_cons] at hlabels
    rw [List.map_cons, List.sum_cons, ih hlabels.2]
    refine sumWhere_add (fun p _ => ?_) fun p _ hk => ?_
    · rcases label? p with _ | e
      · rfl
      · by_cases he : e = k <;> simp [he]
    · rw [beq_iff_eq.1 hk]
      simpa using hlabels.1

/-- Amounts that can be added up have totals for all groups. -/
lemma exists_sum_below (h : Addable (ps.map (·.amount.value))) (path : List GroupKey) :
    ∃ t, Arithmetic.lossless.sum ((below path ps).map (·.amount)) = .ok t ∧
      t.value = ((below path ps).map (·.amount.value)).sum := by
  have hpath := h.of_sublist (amounts_below_sublist path ps)
  obtain ⟨t, ht, hv⟩ := Arithmetic.sum_of_addable (by rwa [List.map_map])
  rw [List.map_map] at hv
  exact ⟨t, ht, hv⟩

/-- Parts of amounts that can be added up have representable sums. -/
lemma representable_sumWhere (h : Addable (ps.map (·.amount.value))) (P : Posting → Bool) :
    Decimal.Representable (sumWhere P ps) :=
  h.representable_sum (List.filter_sublist.map _)

/-- Keys that all postings go by make parts of a sum, if what is summed up for a posting in its part is what
is summed up for it outside. -/
lemma sum_map_under {f : Posting → ℚ} {inside : GroupKey → Posting → ℚ} {keys : List GroupKey}
    (hkeys : keys.Nodup) (divided : ∀ p ∈ ps, ∃ key ∈ keys, p.path.head? = some key)
    (same : ∀ p ∈ ps, ∀ key path, p.path = key :: path → inside key { p with path := path } = f p) :
    (keys.map fun key => ((under key ps).map (inside key)).sum).sum = (ps.map f).sum := by
  induction ps with
  | nil => simp [under]
  | cons p ps ih =>
    obtain ⟨⟨first, hfirst, hhead⟩, divided⟩ := List.forall_mem_cons.1 divided
    obtain ⟨samep, same⟩ := List.forall_mem_cons.1 same
    obtain ⟨path, hpath⟩ := List.head?_eq_some_iff.1 hhead
    have part : ∀ key, ((under key (p :: ps)).map (inside key)).sum
        = if key = first then f p + ((under key ps).map (inside key)).sum
          else ((under key ps).map (inside key)).sum := by
      intro key
      unfold under
      rw [List.filterMap_cons, enter?, hpath]
      by_cases hkey : key = first
      · simp [hkey, samep first path hpath]
      · simp [hkey, Ne.symm hkey]
    simp only [part]
    rw [List.sum_map_ite_eq, List.count_eq_one_of_mem hkeys hfirst, ih divided same, one_nsmul,
      add_sub_cancel_right, List.map_cons, List.sum_cons]

/-- The same for all next keys. -/
lemma sum_map_parts {f : Posting → ℚ} {inside : GroupKey → Posting → ℚ}
    (h : ∀ p ∈ ps, p.path ≠ [])
    (same : ∀ p ∈ ps, ∀ key path, p.path = key :: path → inside key { p with path := path } = f p) :
    ((nextKeys ps).map fun key => ((under key ps).map (inside key)).sum).sum = (ps.map f).sum := by
  refine sum_map_under (nodup_nextKeys ps) (fun p hp => ?_) same
  obtain ⟨key, path, hpath⟩ := List.exists_cons_of_ne_nil (h p hp)
  have hhead : p.path.head? = some key := by rw [hpath, List.head?_cons]
  exact ⟨key, mem_nextKeys.2 ⟨p, hp, hhead⟩, hhead⟩

/-- The parts of a group make up the group. -/
lemma sum_parts (h : ∀ p ∈ ps, p.path ≠ []) :
    ((nextKeys ps).map fun key => ((under key ps).map (·.amount.value)).sum).sum
      = (ps.map (·.amount.value)).sum :=
  sum_map_parts h fun _ _ _ _ _ => rfl

end Posting

/-! ### Tallies -/

namespace Tally

variable {A : Arithmetic} {days? : Option (Date × Date)} {ps qs : List Posting}

/-- The tally of postings, one after the other. -/
def collect (A : Arithmetic) (days? : Option (Date × Date)) (ps : List Posting) :
    Except Overflow Tally :=
  ps.foldlM (fun t p => t.add A p.date? p.amount) (empty days?)

@[simp] lemma collect_nil : collect A days? [] = .ok (empty days?) := rfl

lemma collect_concat (p : Posting) :
    collect A days? (ps ++ [p]) = collect A days? ps >>= fun t => t.add A p.date? p.amount := by
  simp only [collect, List.foldlM_append, List.foldlM_cons, List.foldlM_nil, bind_pure]

lemma collect_of_append {t : Tally} (h : collect A days? (ps ++ qs) = .ok t) :
    ∃ u, collect A days? ps = .ok u := by
  obtain ⟨u, hu, _⟩ := foldlM_append_eq_ok.1 h
  exact ⟨u, hu⟩

/-- A tally without days is the sum of the amounts. -/
lemma collect_none (A : Arithmetic) (ps : List Posting) :
    collect A none ps = total <$> A.sum (ps.map (·.amount)) := by
  induction ps using List.reverseRecOn with
  | nil => rfl
  | append_singleton ps p ih =>
    rw [collect_concat, ih, List.map_append, List.map_singleton, Arithmetic.sum_append]
    cases A.sum (ps.map (·.amount)) with
    | error o => rfl
    | ok t =>
      simp only [ok_bind]
      cases h : A.add t p.amount <;> simp [add, h]

end Tally

end Daybook
