import Daybook.Proofs.Report.Contributions

/-!
# What a report says about contributions

A report of sums or counts agrees with its flat list of contributions: see `Group.AgreesWith` for what
the tree says. The additions at all groups are those of `Contribution.totalAt`; if one of them overflows,
the report does, too, even where the stream has an error later on.
-/

namespace Daybook

variable {A : Arithmetic} {query : ResolvedQuery} {spec : ReportSpec} {days? : Option (Date × Date)}
  {cs : List Contribution} {ps : List Posting} {path : List GroupKey}

namespace Contribution

/-- The contributions to the group at the end of a path. -/
def below (spec : ReportSpec) (path : List GroupKey) (cs : List Contribution) : List Contribution :=
  cs.filter fun c => path <+: c.path spec

/-- The sum of the amounts that are contributed to a group, from zero and from left to right. -/
def totalAt (A : Arithmetic) (spec : ReportSpec) (cs : List Contribution) (path : List GroupKey) :
    Except Overflow Decimal := do
  A.sum (← (below spec path cs).mapM (·.amount A spec))

/-- The keys that divide a group, in the order in which contributions bring them up. -/
def keysAt (spec : ReportSpec) (cs : List Contribution) (path : List GroupKey) : List GroupKey :=
  Voucher.distinct ((below spec path cs).filterMap fun c => (c.path spec)[path.length]?)

/-! ### What goes to a group -/

namespace Posted

/-- The postings below a path are those of the contributions below it, but for the keys of the path. -/
lemma filter (h : Posted A spec cs ps) (path : List GroupKey) :
    Posted A spec (below spec path cs) (ps.filter fun p => path <+: p.path) := by
  apply List.rel_filter _ h
  intro c p hp
  rw [(posting_eq_ok.1 hp).2]

lemma totalAt_eq (h : Posted A spec cs ps) (path : List GroupKey) :
    totalAt A spec cs path = A.sum ((Posting.below path ps).map (·.amount)) := by
  rw [totalAt, (h.filter path).amounts, ok_bind, Posting.below_eq, List.map_map]
  rfl

lemma keysAt_eq (h : Posted A spec cs ps) (path : List GroupKey) :
    keysAt spec cs path = Posting.nextKeys (Posting.below path ps) := by
  have paths := (h.filter path).paths
  rw [keysAt, Posting.nextKeys, Posting.below_eq, List.filterMap_map]
  congr 1
  have := congrArg (List.filterMap (·[path.length]?)) paths
  simpa [List.filterMap_map, Function.comp_def] using this.symm

lemma listings_below (h : Posted A spec cs ps) (path : List GroupKey) :
    (Posting.below path ps).filterMap (·.listed?)
      = if spec.itemized then (below spec path cs).map reference else [] := by
  rw [← (h.filter path).listings, Posting.below_eq, List.filterMap_map]
  rfl

lemma below_ne_nil_iff (h : Posted A spec cs ps) (path : List GroupKey) :
    Posting.below path ps ≠ [] ↔ ∃ c ∈ cs, path <+: c.path spec := by
  have mem : ∀ q, (∃ p ∈ ps, p.path = q) ↔ ∃ c ∈ cs, c.path spec = q := by
    intro q
    simpa using Iff.of_eq (congrArg (q ∈ ·) h.paths)
  rw [Posting.below_ne_nil_iff]
  constructor
  · rintro ⟨p, hp, hpath⟩
    obtain ⟨c, hc, heq⟩ := (mem p.path).1 ⟨p, hp, rfl⟩
    exact ⟨c, hc, heq ▸ hpath⟩
  · rintro ⟨c, hc, hpath⟩
    obtain ⟨p, hp, heq⟩ := (mem (c.path spec)).2 ⟨c, hc, rfl⟩
    exact ⟨p, hp, heq ▸ hpath⟩

end Posted

end Contribution

open Contribution

@[simp] lemma Contribution.below_nil (cs : List Contribution) : below spec [] cs = cs := by
  simp [below]

/-- All totals are there exactly if there are postings that go well into tallies. -/
lemma Contribution.totalAt_eq_ok_iff :
    (∀ path, ∃ t, totalAt A spec cs path = .ok t) ↔
      ∃ ps, Posted A spec cs ps ∧ Posting.Fit A none ps := by
  constructor
  · intro h
    obtain ⟨t, ht⟩ := h []
    rw [totalAt, below_nil, bind_eq_ok] at ht
    obtain ⟨as, has, _⟩ := ht
    obtain ⟨ps, posted⟩ := exists_posted has
    refine ⟨ps, posted, Posting.fit_none_iff.2 ?_⟩
    intro path
    rw [← posted.totalAt_eq]
    exact h path
  · rintro ⟨ps, posted, hfit⟩ path
    rw [posted.totalAt_eq]
    exact Posting.fit_none_iff.1 hfit path

/-! ### Trees of groups -/

/-- What the tree of a report says about its contributions. -/
structure Group.AgreesWith (A : Arithmetic) (spec : ReportSpec) (cs : List Contribution)
    (root : Group) : Prop where
  /-- The root is not divided off by a key. -/
  key_eq : root.key = .root
  /-- There is a group at the end of a path if a contribution goes along it. -/
  exists_iff : ∀ path, (∃ g, root.descend? path = some g) ↔
    path = [] ∨ ∃ c ∈ cs, path <+: c.path spec
  /-- No two parts of a group have one key. -/
  nodup_keys : ∀ path g, root.descend? path = some g → (g.children.map Group.key).Nodup
  /-- Every group has the sum of what is contributed to it. -/
  total_eq : ∀ path g, root.descend? path = some g → totalAt A spec cs path = .ok g.total
  /-- Entries are listed at the ends of full paths only, and if that is asked for. -/
  entries_eq : ∀ path g, root.descend? path = some g → g.entries =
    if spec.itemized ∧ path.length = spec.levels.length then (below spec path cs).map reference else []
  /-- The parts of a group stand as they first come up, … -/
  firstSeen : spec.order = .firstSeen → ∀ path g, root.descend? path = some g →
    g.children.map Group.key = keysAt spec cs path
  /-- … or by their keys. -/
  sorted : spec.order = .sorted → ∀ path g, root.descend? path = some g →
    (g.children.map Group.key).Pairwise fun a b => a.le b = true
  /-- There are no converted totals and no running balances. -/
  plain : ∀ path g, root.descend? path = some g → g.converted? = none ∧ g.series? = none

variable {order : GroupOrder} {n : ℕ} {g : Group}

/-- The tree of the postings of contributions agrees with them. -/
lemma Group.Reports.agreesWith
    (h : Group.Reports A none spec.order spec.levels.length ps g) (hkey : g.key = .root)
    (lengths : ∀ p ∈ ps, p.path.length = spec.levels.length) (posted : Posted A spec cs ps) :
    g.AgreesWith A spec cs := by
  have keys_eq : ∀ path d, g.descend? path = some d →
      d.children.map Group.key = GroupKey.arrange spec.order (keysAt spec cs path) := by
    intro path d hd
    obtain ⟨m, hm, hpart⟩ := h.descend hd
    rw [posted.keysAt_eq, hpart.keys_eq]
    exact fun q hq => Posting.path_length_of_mem_below (by simpa [hm] using lengths) hq
  refine
    { key_eq := hkey
      exists_iff := ?exists_iff
      nodup_keys := ?nodup_keys
      total_eq := ?total_eq
      entries_eq := ?entries_eq
      firstSeen := ?firstSeen
      sorted := ?sorted
      plain := ?plain }
  case exists_iff =>
    intro path
    rw [h.exists_descend_iff lengths, posted.below_ne_nil_iff]
  case nodup_keys =>
    intro path d hd
    rw [keys_eq path d hd, (GroupKey.arrange_perm _ _).nodup_iff]
    exact Voucher.nodup_distinct _
  case total_eq =>
    intro path d hd
    obtain ⟨m, _, hpart⟩ := h.descend hd
    rw [posted.totalAt_eq, hpart.sum_eq.1]
  case entries_eq =>
    intro path d hd
    obtain ⟨m, hm, hpart⟩ := h.descend hd
    rw [hpart.entries_eq, posted.listings_below]
    have full : m = 0 ↔ path.length = spec.levels.length := by omega
    by_cases hi : spec.itemized <;> by_cases hm : m = 0 <;> simp_all
  case firstSeen =>
    intro ho path d hd
    rw [keys_eq path d hd, ho]
    rfl
  case sorted =>
    intro ho path d hd
    rw [keys_eq path d hd, ho]
    exact GroupKey.pairwise_arrange_sorted _
  case plain =>
    intro path d hd
    obtain ⟨m, _, hpart⟩ := h.descend hd
    exact hpart.sum_eq.2

/-! ### Reports -/

/-- A report of sums or counts agrees with the flat list of contributions from the vouchers before the
first error of the stream. If one of the additions for one of the groups overflows, so does the report. If
all of them go well, the first error is the answer; without errors the report is there, and its tree
agrees with the contributions. -/
theorem subtotal_agrees_with_contributions (A : Arithmetic) (stream : VoucherStream)
    (query : ResolvedQuery) (spec : ReportSpec)
    (hagg : spec.aggregation = .sum ∨ spec.aggregation = .count) :
    ((∃ path o, totalAt A spec (contributions query spec.range? stream.delivered) path = .error o) →
      ∃ o, subtotal A stream query spec = .error (.overflow o)) ∧
    ((∀ path, ∃ t,
        totalAt A spec (contributions query spec.range? stream.delivered) path = .ok t) →
      (∀ e, stream.failure? = some e → subtotal A stream query spec = .error (.error (.ledger e))) ∧
      (stream.failure? = none → ∃ root,
        subtotal A stream query spec = .ok ⟨spec.levels, spec.aggregation, root⟩ ∧
        root.AgreesWith A spec (contributions query spec.range? stream.delivered))) := by
  have hdaily : spec.aggregation ≠ .everyDay := by rcases hagg with h | h <;> simp [h]
  have hpruned : spec.aggregation ≠ .nonZero := by rcases hagg with h | h <;> simp [h]
  have hdays : spec.span? = .ok none := ReportSpec.span?_eq_ok.2 (.inr ⟨hdaily, rfl⟩)
  rw [← ReportSpec.contributingRange?_of_ne hdaily]
  have hpostings : ∀ ps, postings A query spec stream.delivered = .ok ps ↔
      Posted A spec (contributions query spec.contributingRange? stream.delivered) ps :=
    fun _ => mapM_eq_ok
  constructor
  · -- one overflow is enough: the tallies do not fit then
    rintro ⟨path, o, ho⟩
    apply subtotal_of_overflow hdays
    intro ps hps hfit
    obtain ⟨t, ht⟩ := totalAt_eq_ok_iff.2 ⟨ps, (hpostings ps).1 hps, hfit⟩ path
    cases ho.symm.trans ht
  · -- no overflow: only an error of the stream is left to fail with
    intro h
    obtain ⟨ps, posted, hfit⟩ := totalAt_eq_ok_iff.1 h
    have hps := (hpostings ps).2 posted
    refine ⟨fun e hf => subtotal_of_failure hdays hf hps hfit, fun hf => ?_⟩
    obtain ⟨g, hs, reports, hkey⟩ := exists_reports hdays hf hps hfit
    rw [if_neg hpruned] at hs
    exact ⟨g, hs, reports.agreesWith hkey (path_length_of_postings hps) posted⟩

/-- The totals of a report that is there are all there. -/
lemma Contribution.totalAt_of_subtotal {stream : VoucherStream} {s : Subtotal}
    (hdays : spec.span? = .ok none) (h : subtotal A stream query spec = .ok s)
    (path : List GroupKey) : ∃ t,
      totalAt A spec (contributions query spec.contributingRange? stream.delivered) path = .ok t := by
  obtain ⟨ps, _, hps, hfit, _⟩ := reports_of_subtotal hdays h
  exact totalAt_eq_ok_iff.2 ⟨ps, mapM_eq_ok.1 hps, hfit⟩ path

/-- By account and currency, with the entries. -/
def itemizedSum : ReportSpec := ⟨[.account, .currency], .sum, none, .firstSeen, true⟩

set_option maxRecDepth 4000 in
theorem sale_agrees_with_contributions :
    (itemizedSum.aggregation = .sum ∨ itemizedSum.aggregation = .count) ∧
    (∀ path, ∃ t, totalAt .rounding itemizedSum
      (contributions (.ofTree .all) none [.sale, .refund]) path = .ok t) ∧
    ∃ root, subtotal .rounding [.ok Voucher.sale, .ok Voucher.refund] (.ofTree .all) itemizedSum
        = .ok ⟨[.account, .currency], .sum, root⟩ ∧
      root.AgreesWith .rounding itemizedSum
        (contributions (.ofTree .all) none [.sale, .refund]) := by
  have totals : ∀ path, ∃ t, totalAt .rounding itemizedSum
      (contributions (.ofTree .all) none [.sale, .refund]) path = .ok t := by
    obtain ⟨s, hs⟩ : ∃ s, subtotal .rounding [.ok Voucher.sale, .ok Voucher.refund] (.ofTree .all)
        itemizedSum = .ok s := ⟨_, rfl⟩
    exact totalAt_of_subtotal rfl hs
  refine ⟨.inl rfl, totals, ?_⟩
  exact ((subtotal_agrees_with_contributions .rounding [.ok Voucher.sale, .ok Voucher.refund]
    (.ofTree .all) itemizedSum (.inl rfl)).2 totals).2 rfl

/-- Two entries of the largest amount. -/
def hugeVoucher : Voucher where
  id? := none
  date? := none
  kind := .ordinary
  remark? := none
  entries := [.plain 1001 (Decimal.of? 79228162514264337593543950335 0),
    .plain 1001 (Decimal.of? 79228162514264337593543950335 0)]

/-- An overflow comes before an error that the stream has later on. -/
theorem subtotal_overflow_before_failure :
    ReportSpec.default.aggregation = .sum ∧
    VoucherStream.failure? [.ok hugeVoucher, .error (.unavailable "gone")]
      = some (.unavailable "gone") ∧
    subtotal .rounding [.ok hugeVoucher, .error (.unavailable "gone")] (.ofTree .all) .default
      = .error (.overflow .addition) ∧
    subtotal .rounding [.ok hugeVoucher, .error (.unavailable "gone")] (.ofTree .all) .default
      ≠ .error (.error (.ledger (.unavailable "gone"))) := by
  have overflow : subtotal .rounding [.ok hugeVoucher, .error (.unavailable "gone")] (.ofTree .all)
      .default = .error (.overflow .addition) := rfl
  refine ⟨rfl, rfl, overflow, ?_⟩
  rw [overflow]
  simp

end Daybook
