import Daybook.Proofs.Query.Hint
import Daybook.Proofs.Report.Group
import Daybook.Proofs.Report.Spec

/-!
# Contributions to a report

A `Contribution` is an entry of a voucher together with a leaf of the query that accepts it. The list of
all `contributions` says what a report is made of without the order in which the work is done: the report
puts the `Contribution.posting`s of the vouchers before the first error of the stream into its groups
(`subtotal_eq_ok`).
-/

namespace Daybook

/-- An entry that a leaf of a query accepts. -/
structure Contribution where
  voucher : Voucher
  selected : Selected

namespace Contribution

/-- The amount that is contributed. -/
def amount (A : Arithmetic) (spec : ReportSpec) (c : Contribution) : Except Overflow Decimal :=
  c.selected.amount A spec.aggregation

/-- The keys of the groups that it contributes to. -/
def path (spec : ReportSpec) (c : Contribution) : List GroupKey :=
  c.selected.path spec.levels c.voucher

/-- The listing of the entry. -/
def reference (c : Contribution) : EntryRef := c.selected.reference c.voucher

/-- What goes into the buckets. -/
def posting (A : Arithmetic) (spec : ReportSpec) (c : Contribution) : Except Overflow Posting := do
  return ⟨c.voucher.date?, ← c.amount A spec, c.path spec,
    if spec.itemized then some c.reference else none⟩

end Contribution

/-- The entries of a voucher that leaves of the query accept, leaf by leaf. -/
def ResolvedQuery.accepted (q : ResolvedQuery) (v : Voucher) : List Contribution :=
  q.leaves.flatMap fun leaf =>
    (v.entries.zipIdx.filter fun (e, _) => leaf.accepts e v).map fun (e, i) => ⟨v, leaf, i, e⟩

/-- All entries of vouchers in a range that leaves of the query accept: voucher by voucher, leaf by leaf,
entry by entry. -/
def contributions (q : ResolvedQuery) (range? : Option DateRange) (vs : List Voucher) :
    List Contribution :=
  (vs.filter fun v => inRange range? v.date?).flatMap q.accepted

lemma contributions_cons (q : ResolvedQuery) (range? : Option DateRange) (v : Voucher)
    (vs : List Voucher) :
    contributions q range? (v :: vs)
      = (if inRange range? v.date? then q.accepted v else []) ++ contributions q range? vs := by
  unfold contributions
  rw [List.filter_cons]
  split
  · rw [List.flatMap_cons]
  · rw [List.nil_append]

namespace VoucherStream

/-- The vouchers before the first error. -/
def delivered : VoucherStream → List Voucher
  | .ok v :: stream => v :: delivered stream
  | _               => []

/-- The first error. -/
def failure? : VoucherStream → Option LedgerError
  | []              => none
  | .error e :: _   => some e
  | .ok _ :: stream => failure? stream

@[simp] lemma delivered_ok (vs : List Voucher) : delivered (vs.map .ok) = vs := by
  induction vs with
  | nil => rfl
  | cons v vs ih => rw [List.map_cons, delivered, ih]

@[simp] lemma failure?_ok (vs : List Voucher) : failure? (vs.map .ok) = none := by
  induction vs with
  | nil => rfl
  | cons v vs ih => rw [List.map_cons, failure?, ih]

end VoucherStream

variable {A : Arithmetic} {query : ResolvedQuery} {spec : ReportSpec} {days? : Option (Date × Date)}
  {stream : VoucherStream} {s : Subtotal}

/-! ### The loops over vouchers, leaves and entries -/

/-- No accepted entry is lost to the look at its voucher alone. -/
lemma ResolvedQuery.map_select (q : ResolvedQuery) (v : Voucher) :
    (q.select v).map (Contribution.mk v) = q.accepted v := by
  obtain ⟨leaves⟩ := q
  unfold select accepted
  induction leaves with
  | nil => rfl
  | cons leaf leaves ih =>
    rw [List.flatMap_cons, List.filter_cons]
    split <;> rename_i hmay
    · rw [List.flatMap_cons, List.map_append, ih]
      simp
    · -- a leaf that is passed over for this voucher would accept none of its entries
      have nothing : v.entries.zipIdx.filter (fun (e, _) => leaf.accepts e v) = [] := by
        rw [List.filter_eq_nil_iff]
        rintro ⟨e, i⟩ hmem haccepts
        exact hmay (leaf.mayAccept_of_accepts (List.fst_mem_of_mem_zipIdx hmem) haccepts)
      rw [ih, nothing]
      rfl

/-- Put a contribution into its buckets. -/
def Bucket.contribute (A : Arithmetic) (spec : ReportSpec) (days? : Option (Date × Date))
    (root : Bucket) (c : Contribution) : Except Overflow Bucket :=
  c.posting A spec >>= root.post A days?

lemma Bucket.collect_eq (root : Bucket) (v : Voucher) (s : Selected) :
    root.collect A spec days? v s = root.contribute A spec days? ⟨v, s⟩ := by
  simp only [collect, contribute, Contribution.posting, Contribution.amount, bind_assoc, pure_eq_ok,
    ok_bind]
  rfl

lemma Bucket.collectVoucher_eq (hdays : spec.span? = .ok days?) (root : Bucket) (v : Voucher) :
    root.collectVoucher A spec days? query v
      = (if inRange spec.contributingRange? v.date? then query.accepted v else []).foldlM
          (contribute A spec days?) root := by
  unfold collectVoucher
  rw [ReportSpec.covers_eq hdays]
  split
  · rw [← query.map_select v, List.foldlM_map]
    congr 1
    funext root s
    exact collect_eq root v s
  · rfl

/-- A stream is gone through as the list of contributions, up to its first error. -/
lemma Bucket.collectStream_eq (hdays : spec.span? = .ok days?) (root : Bucket)
    (stream : VoucherStream) :
    root.collectStream A spec days? query stream
      = liftOverflow ((contributions query spec.contributingRange? stream.delivered).foldlM
          (contribute A spec days?) root) >>= fun root =>
            match stream.failure? with
            | some e => .error (.error (.ledger e))
            | none   => .ok root := by
  induction stream generalizing root with
  | nil => rfl
  | cons item stream ih =>
    cases item with
    | error e => rfl
    | ok v =>
      -- voucher by voucher, since an error in between ends the stream
      rw [VoucherStream.delivered, VoucherStream.failure?, contributions_cons, List.foldlM_append,
        ← collectVoucher_eq hdays, collectStream]
      cases root.collectVoucher A spec days? query v with
      | error o => rfl
      | ok root => exact ih root

/-! ### Postings of contributions -/

namespace Contribution

variable {cs : List Contribution} {ps : List Posting}

lemma posting_eq_ok {c : Contribution} {p : Posting} : c.posting A spec = .ok p ↔
    c.amount A spec = .ok p.amount ∧ p = ⟨c.voucher.date?, p.amount, c.path spec,
      if spec.itemized then some c.reference else none⟩ := by
  simp only [posting, bind_eq_ok, pure_eq_ok, Except.ok.injEq]
  constructor
  · rintro ⟨a, ha, rfl⟩
    exact ⟨ha, rfl⟩
  · rintro ⟨ha, hp⟩
    exact ⟨p.amount, ha, hp.symm⟩

/-- The postings are those of the contributions, one by one. -/
abbrev Posted (A : Arithmetic) (spec : ReportSpec) : List Contribution → List Posting → Prop :=
  List.Forall₂ fun c p => c.posting A spec = .ok p

namespace Posted

lemma amounts (h : Posted A spec cs ps) : cs.mapM (·.amount A spec) = .ok (ps.map (·.amount)) := by
  rw [mapM_eq_ok]
  exact List.forall₂_map_right_iff.2 (h.imp fun _ _ hp => (posting_eq_ok.1 hp).1)

lemma paths (h : Posted A spec cs ps) : ps.map (·.path) = cs.map (·.path spec) := by
  induction h with
  | nil => rfl
  | cons hp _ ih => rw [List.map_cons, List.map_cons, ih, (posting_eq_ok.1 hp).2]

lemma listings (h : Posted A spec cs ps) :
    ps.filterMap (·.listed?) = if spec.itemized then cs.map reference else [] := by
  induction h with
  | nil => simp
  | cons hp _ ih =>
    rw [List.filterMap_cons, ih, (posting_eq_ok.1 hp).2]
    cases spec.itemized <;> rfl

/-- Every posting is that of one of the contributions. -/
lemma exists_of_mem (h : Posted A spec cs ps) {p : Posting} (hp : p ∈ ps) :
    ∃ c ∈ cs, c.posting A spec = .ok p :=
  exists_of_mem_forall₂ h hp

lemma path_length (h : Posted A spec cs ps) : ∀ p ∈ ps, p.path.length = spec.levels.length := by
  intro p hp
  obtain ⟨c, _, hc⟩ := h.exists_of_mem hp
  rw [(posting_eq_ok.1 hc).2, path, Selected.path, List.length_map]

end Posted

/-- Contributions with amounts have postings. -/
lemma exists_posted {as : List Decimal} (h : cs.mapM (·.amount A spec) = .ok as) :
    ∃ ps, Posted A spec cs ps := by
  rw [mapM_eq_ok] at h
  induction h with
  | nil => exact ⟨[], .nil⟩
  | cons ha _ ih =>
    obtain ⟨ps, hps⟩ := ih
    exact ⟨_ :: ps, .cons (by rw [posting, ha, ok_bind, pure_eq_ok]) hps⟩

end Contribution

/-! ### Reports -/

/-- The postings of a report on vouchers. -/
def postings (A : Arithmetic) (query : ResolvedQuery) (spec : ReportSpec) (vs : List Voucher) :
    Except Overflow (List Posting) :=
  (contributions query spec.contributingRange? vs).mapM (·.posting A spec)

lemma path_length_of_postings {vs : List Voucher} {ps : List Posting}
    (h : postings A query spec vs = .ok ps) : ∀ p ∈ ps, p.path.length = spec.levels.length :=
  Contribution.Posted.path_length (mapM_eq_ok.1 h)

/-- Leaves and vouchers in another order accept the same entries in another order. -/
lemma contributions_perm {query' : ResolvedQuery} {us vs : List Voucher}
    (hleaves : query.leaves.Perm query'.leaves) (h : us.Perm vs) (range? : Option DateRange) :
    (contributions query range? us).Perm (contributions query' range? vs) :=
  (h.filter _).flatMap fun _ _ => hleaves.flatMap_right _

/-- So they have the same postings in another order. -/
lemma postings_of_perm {query' : ResolvedQuery} {us vs : List Voucher} {qs : List Posting}
    (hleaves : query.leaves.Perm query'.leaves) (h : us.Perm vs)
    (hqs : postings A query' spec vs = .ok qs) :
    ∃ ps, postings A query spec us = .ok ps ∧ ps.Perm qs := by
  obtain ⟨ps, hps, hperm⟩ :=
    List.perm_comp_forall₂ (contributions_perm hleaves h _) (mapM_eq_ok.1 hqs)
  exact ⟨ps, mapM_eq_ok.2 hps, hperm⟩

/-- A posting goes by the keys of some entry of a voucher. -/
lemma exists_keys_of_postings {vs : List Voucher} {ps : List Posting}
    (h : postings A query spec vs = .ok ps) :
    ∀ p ∈ ps, ∃ e v, p.path = spec.levels.map (·.key e v) := by
  intro p hp
  obtain ⟨c, _, hc⟩ := Contribution.Posted.exists_of_mem (mapM_eq_ok.1 h) hp
  exact ⟨c.selected.entry, c.voucher, by rw [(Contribution.posting_eq_ok.1 hc).2]; rfl⟩

lemma finish_eq_ok {b : Bucket} : spec.finish A b = .ok s ↔ ∃ g, b.finish A spec.order = .ok g ∧
    s = ⟨spec.levels, spec.aggregation, if spec.aggregation = .nonZero then g.prune else g⟩ := by
  simp only [ReportSpec.finish, bind_eq_ok, pure_eq_ok, Except.ok.injEq]
  exact exists_congr fun g => and_congr_right fun _ => eq_comm

lemma exists_span_of_subtotal (h : subtotal A stream query spec = .ok s) :
    ∃ days?, spec.span? = .ok days? := by
  cases hspan : spec.span? with
  | error e => simp [subtotal, hspan] at h
  | ok days? => exact ⟨days?, rfl⟩

/-- A report is there if the stream ends without error and the postings go well into their buckets, which
can be finished. -/
theorem subtotal_eq_ok (hdays : spec.span? = .ok days?) :
    subtotal A stream query spec = .ok s ↔ stream.failure? = none ∧
      ∃ ps b, postings A query spec stream.delivered = .ok ps ∧
        ps.foldlM (Bucket.post A days?) (.empty days? .root) = .ok b ∧ spec.finish A b = .ok s := by
  simp only [subtotal, hdays, Bucket.collectStream_eq hdays, liftM_eq_liftOverflow, bind_eq_ok,
    liftOverflow_eq_ok]
  constructor
  · rintro ⟨b, ⟨b', hb, hend⟩, hs⟩
    cases hf : stream.failure? with
    | some e => simp [hf] at hend
    | none =>
      simp only [hf, Except.ok.injEq] at hend
      obtain ⟨ps, hps, hb⟩ := foldlM_bind_eq_ok.1 hb
      exact ⟨rfl, ps, b, hps, hend ▸ hb, hs⟩
  · rintro ⟨hf, ps, b, hps, hb, hs⟩
    exact ⟨b, ⟨b, foldlM_bind_eq_ok.2 ⟨ps, hps, hb⟩, by simp [hf]⟩, hs⟩

/-- The postings of a report that is there have gone well into tallies, and its tree reports them. -/
theorem reports_of_subtotal (hdays : spec.span? = .ok days?)
    (h : subtotal A stream query spec = .ok s) :
    ∃ ps g, postings A query spec stream.delivered = .ok ps ∧ Posting.Fit A days? ps ∧
      Group.Reports A days? spec.order spec.levels.length ps g ∧ g.key = .root ∧
      s = ⟨spec.levels, spec.aggregation, if spec.aggregation = .nonZero then g.prune else g⟩ := by
  obtain ⟨_, ps, b, hps, hb, hs⟩ := (subtotal_eq_ok hdays).1 h
  obtain ⟨g, hg, rfl⟩ := finish_eq_ok.1 hs
  have lengths := path_length_of_postings hps
  obtain ⟨holds, hkey⟩ := (Bucket.holds_empty A days? _ .root).postAll lengths hb
  rw [List.nil_append] at holds
  exact ⟨ps, g, hps, holds.fits lengths, holds.finish hg, (Bucket.key_of_finish hg).trans hkey, rfl⟩

/-- Postings that go well into tallies go well into buckets. -/
lemma exists_postAll_root {ps : List Posting} {n : ℕ} (lengths : ∀ p ∈ ps, p.path.length = n)
    (hfit : Posting.Fit A days? ps) :
    ∃ b, ps.foldlM (Bucket.post A days?) (.empty days? .root) = .ok b ∧
      Bucket.Holds A days? n ps b := by
  have hempty := Bucket.holds_empty A days? n .root
  obtain ⟨b, hb⟩ := hempty.exists_postAll lengths (by simpa using hfit)
  exact ⟨b, hb, by simpa using (hempty.postAll lengths hb).1⟩

/-- A report is there if its postings go well into tallies, which can be concluded. -/
theorem exists_subtotal (hdays : spec.span? = .ok days?) (hf : stream.failure? = none)
    {ps : List Posting} (hps : postings A query spec stream.delivered = .ok ps)
    (hfit : Posting.Fit A days? ps)
    (hc : ∀ path tally isLeaf, Tally.collect A days? (Posting.below path ps) = .ok tally →
      ∃ r, Bucket.conclude A isLeaf tally = .ok r) :
    ∃ s, subtotal A stream query spec = .ok s := by
  obtain ⟨b, hb, holds⟩ := exists_postAll_root (path_length_of_postings hps) hfit
  obtain ⟨g, hg⟩ : ∃ g, b.finish A spec.order = .ok g := holds.exists_finish hc
  exact ⟨_, (subtotal_eq_ok hdays).2 ⟨hf, ps, b, hps, hb, finish_eq_ok.2 ⟨g, hg, rfl⟩⟩⟩

/-- A report on vouchers is there if it does not overflow. -/
lemma exists_subtotal_of_no_overflow (hdays : spec.span? = .ok days?) {vs : List Voucher}
    (h : ∀ o, subtotal A (vs.map .ok) query spec ≠ .error (.overflow o)) :
    ∃ s, subtotal A (vs.map .ok) query spec = .ok s := by
  simp only [subtotal, hdays, Bucket.collectStream_eq hdays, VoucherStream.delivered_ok,
    VoucherStream.failure?_ok, liftM_eq_liftOverflow] at h ⊢
  cases hfold : (contributions query spec.contributingRange? vs).foldlM
      (Bucket.contribute A spec days?) (.empty days? .root) with
  | error o => exact absurd (by simp [hfold, liftOverflow]) (h o)
  | ok root =>
    cases hfinish : spec.finish A root with
    | error o => exact absurd (by simp [hfold, hfinish, liftOverflow]) (h o)
    | ok s => exact ⟨s, by simp [hfinish, liftOverflow]⟩

/-- Without days there is nothing more to it, and the tree reports the postings. -/
theorem exists_reports (hdays : spec.span? = .ok none) (hf : stream.failure? = none)
    {ps : List Posting} (hps : postings A query spec stream.delivered = .ok ps)
    (hfit : Posting.Fit A none ps) :
    ∃ g, subtotal A stream query spec = .ok ⟨spec.levels, spec.aggregation,
        if spec.aggregation = .nonZero then g.prune else g⟩ ∧
      Group.Reports A none spec.order spec.levels.length ps g ∧ g.key = .root := by
  obtain ⟨s, hs⟩ := exists_subtotal hdays hf hps hfit fun path tally isLeaf htally => by
    obtain ⟨total, _, hc⟩ := Bucket.conclude_of_collect_none htally isLeaf
    exact ⟨_, hc⟩
  obtain ⟨qs, g, hqs, _, reports, hkey, rfl⟩ := reports_of_subtotal hdays hs
  obtain rfl := Except.ok.inj (hps.symm.trans hqs)
  exact ⟨g, hs, reports, hkey⟩

/-- The first error of a stream is the answer if the postings before it go well into tallies. -/
theorem subtotal_of_failure (hdays : spec.span? = .ok days?) {e : LedgerError}
    (hf : stream.failure? = some e) {ps : List Posting}
    (hps : postings A query spec stream.delivered = .ok ps) (hfit : Posting.Fit A days? ps) :
    subtotal A stream query spec = .error (.error (.ledger e)) := by
  obtain ⟨b, hb, _⟩ := exists_postAll_root (path_length_of_postings hps) hfit
  have hfold : (contributions query spec.contributingRange? stream.delivered).foldlM
      (Bucket.contribute A spec days?) (.empty days? .root) = .ok b :=
    foldlM_bind_eq_ok.2 ⟨ps, hps, hb⟩
  simp [subtotal, hdays, Bucket.collectStream_eq hdays, hfold, hf]

/-- Postings that do not go well into tallies overflow, before any error of the stream. -/
theorem subtotal_of_overflow (hdays : spec.span? = .ok days?)
    (h : ∀ ps, postings A query spec stream.delivered = .ok ps → ¬ Posting.Fit A days? ps) :
    ∃ o, subtotal A stream query spec = .error (.overflow o) := by
  cases hfold : (contributions query spec.contributingRange? stream.delivered).foldlM
      (Bucket.contribute A spec days?) (.empty days? .root) with
  | error o =>
    exact ⟨o, by simp [subtotal, hdays, Bucket.collectStream_eq hdays, hfold, liftOverflow]⟩
  | ok b =>
    obtain ⟨ps, hps, hb⟩ := foldlM_bind_eq_ok.1 hfold
    have lengths := path_length_of_postings hps
    have holds := ((Bucket.holds_empty A days? _ .root).postAll lengths hb).1
    rw [List.nil_append] at holds
    exact absurd (holds.fits lengths) (h ps hps)

end Daybook
