import Daybook.Proofs.Report.Balance
import Daybook.Proofs.Template.Expansion

/-!
# The range that templates inherit

A report hands the dates that can contribute to it down to the templates that inherit their range. It looks
at no other dates anyway, so it is the same report as without a range for them
(`TemplateTable.resolve_contributingRange`), and the same as for the query of such a template on its own.
-/

namespace Daybook

variable {A : Arithmetic} {spec : ReportSpec} {days? : Option (Date × Date)}
  {outer? range? range?' : Option DateRange} {leaf leaf' : ResolvedLeaf} {q q' : ResolvedQuery}

/-! ### Ranges that are handed down -/

/-- The ranges are the same, or the first one is handed down from outside where the second one is
missing. -/
def HandedDown (outer? range? range?' : Option DateRange) : Prop :=
  range? = range?' ∨ range? = outer? ∧ range?' = none

/-- Dates within the outer range are not told apart. -/
lemma HandedDown.inRange_eq (h : HandedDown outer? range? range?') {date? : Option Date}
    (hdate : inRange outer? date? = true) : inRange range? date? = inRange range?' date? := by
  rcases h with rfl | ⟨rfl, rfl⟩
  · rfl
  · exact hdate

lemma HandedDown.effectiveRange (h : HandedDown outer? range? range?') (template : Template) :
    HandedDown outer? (template.effectiveRange range?) (template.effectiveRange range?') := by
  unfold Template.effectiveRange
  split
  · exact h
  · exact .inl rfl

/-! ### Leaves -/

/-- The leaves have the same tree and coefficient, and their ranges differ at most in what is handed
down. -/
structure ResolvedLeaf.AlikeWithin (outer? : Option DateRange) (leaf leaf' : ResolvedLeaf) : Prop where
  tree_eq : leaf.tree = leaf'.tree
  coefficient_eq : leaf.coefficient = leaf'.coefficient
  handedDown : HandedDown outer? leaf.range? leaf'.range?

/-- The queries have leaves that are alike within a range, one by one. -/
def ResolvedQuery.AlikeWithin (outer? : Option DateRange) (q q' : ResolvedQuery) : Prop :=
  List.Forall₂ (ResolvedLeaf.AlikeWithin outer?) q.leaves q'.leaves

namespace ResolvedLeaf.AlikeWithin

lemma accepts_eq (h : leaf.AlikeWithin outer? leaf') {v : Voucher}
    (hv : inRange outer? v.date? = true) (e : Entry) : leaf.accepts e v = leaf'.accepts e v := by
  rw [accepts, accepts, h.tree_eq, h.handedDown.inRange_eq hv]

/-- Such leaves contribute the same. -/
lemma postings_eq (h : leaf.AlikeWithin outer? leaf') {v : Voucher}
    (hv : inRange outer? v.date? = true) (A : Arithmetic) (spec : ReportSpec) :
    ((v.entries.zipIdx.filter fun (e, _) => leaf.accepts e v).map
        fun (e, i) => (Contribution.mk v ⟨leaf, i, e⟩).posting A spec)
      = (v.entries.zipIdx.filter fun (e, _) => leaf'.accepts e v).map
        fun (e, i) => (Contribution.mk v ⟨leaf', i, e⟩).posting A spec := by
  simp only [h.accepts_eq hv, Contribution.posting, Contribution.amount, Contribution.path,
    Contribution.reference, Selected.amount, Selected.path, Selected.reference, h.coefficient_eq]

end ResolvedLeaf.AlikeWithin

/-! ### Reports -/

namespace ResolvedQuery.AlikeWithin

lemma postings_eq (h : q.AlikeWithin outer? q') {v : Voucher} (hv : inRange outer? v.date? = true)
    (A : Arithmetic) (spec : ReportSpec) :
    (q.accepted v).map (·.posting A spec) = (q'.accepted v).map (·.posting A spec) := by
  obtain ⟨leaves⟩ := q
  obtain ⟨leaves'⟩ := q'
  change List.Forall₂ _ leaves leaves' at h
  unfold accepted
  induction h with
  | nil => rfl
  | cons hleaf _ ih =>
    have first := hleaf.postings_eq hv A spec
    simp only [List.flatMap_cons, List.map_append, List.map_map, Function.comp_def] at ih ⊢
    rw [first, ih]

/-- What a report looks at is in the range of what can contribute to it, where the queries agree. -/
lemma collectVoucher_eq (h : q.AlikeWithin spec.contributingRange? q')
    (hdays : spec.span? = .ok days?) (root : Bucket) (v : Voucher) :
    root.collectVoucher A spec days? q v = root.collectVoucher A spec days? q' v := by
  rw [Bucket.collectVoucher_eq hdays, Bucket.collectVoucher_eq hdays]
  split
  · next hv =>
    have steps : ∀ cs : List Contribution, cs.foldlM (Bucket.contribute A spec days?) root
        = (cs.map (·.posting A spec)).foldlM (fun root p => p >>= root.post A days?) root :=
      fun cs => by rw [List.foldlM_map]; rfl
    rw [steps, steps, h.postings_eq hv]
  · rfl

lemma collectStream_eq (h : q.AlikeWithin spec.contributingRange? q')
    (hdays : spec.span? = .ok days?) (root : Bucket) (stream : VoucherStream) :
    root.collectStream A spec days? q stream = root.collectStream A spec days? q' stream := by
  induction stream generalizing root with
  | nil => rfl
  | cons item stream ih =>
    cases item with
    | error e => rfl
    | ok v => simp only [Bucket.collectStream, h.collectVoucher_eq hdays, ih]

/-- The reports on such queries are the same, whatever the stream. -/
theorem subtotal_eq (h : q.AlikeWithin spec.contributingRange? q') (A : Arithmetic)
    (stream : VoucherStream) : subtotal A stream q spec = subtotal A stream q' spec := by
  unfold subtotal
  cases hdays : spec.span? with
  | error e => rfl
  | ok days? => simp only [h.collectStream_eq hdays]

end ResolvedQuery.AlikeWithin

/-! ### Resolution -/

/-- Templates come to leaves that differ in nothing but the range that is handed down. -/
lemma TemplateTable.expand_handedDown (t : TemplateTable) (path : List String) (scale : Decimal)
    (items : List TemplateItem) (h : HandedDown outer? range? range?') :
    SameOutcome (List.Forall₂ (ResolvedLeaf.AlikeWithin outer?))
      (t.expand A path scale range? items) (t.expand A path scale range?' items) := by
  induction path, scale, range?, items using expand.induct t generalizing range?' with
  | case1 path scale range? =>
    rw [expand, expand]
    exact .ok .nil
  | case2 path scale range? tree items ih =>
    rw [expand, expand]
    exact (ih h).bind fun _ _ hmore => .ok (.cons ⟨rfl, rfl, h⟩ hmore)
  | case3 path scale range? name coefficient items hin =>
    rw [expand, expand, dif_pos hin, dif_pos hin]
    exact .error _
  | case4 path scale range? name coefficient items hin missing =>
    rw [expand_unknown hin missing, expand_unknown hin missing]
    exact .error _
  | case5 path scale range? name coefficient items hin template found _ ihBody ihRest =>
    rw [expand_reference hin found, expand_reference hin found]
    -- the scale is the same, then the body and the rest are expanded in either run
    refine .bind_left _ fun inner => ?_
    refine (ihBody inner (h.effectiveRange template)).bind fun _ _ hbody => ?_
    exact (ihRest h).bind fun _ _ hmore => .ok (List.rel_append hbody hmore)

lemma TemplateTable.resolve_handedDown (t : TemplateTable) (name : String) (k : Decimal)
    (h : HandedDown outer? range? range?') :
    SameOutcome (ResolvedQuery.AlikeWithin outer?) (t.resolve A name k range?)
      (t.resolve A name k range?') := by
  cases found : t.get? name with
  | none =>
    rw [resolve, resolve, found]
    exact .error _
  | some template =>
    rw [resolve_of_get? found, resolve_of_get? found]
    refine .bind_left _ fun scale => ?_
    exact (expand_handedDown t _ _ _ (h.effectiveRange template)).bind fun _ _ hleaves => .ok hleaves

/-- The report on one query is the report on the other, whatever the vouchers are. -/
def ReportSpec.SameReports (spec : ReportSpec) (q q' : ResolvedQuery) : Prop :=
  ∀ stream, subtotal .rounding stream q spec = subtotal .rounding stream q' spec

/-- A template with a single query that counts once comes to what the query comes to on its own. -/
lemma TemplateTable.resolve_single {t : TemplateTable} {name : String} {template : Template}
    {tree : FilterTree} (found : t.get? name = some template) (inherits : template.inheritsRange = true)
    (items_eq : template.items = [.query tree]) (once : template.coefficient = .one) (k : Decimal)
    (outer? : Option DateRange) :
    SameOutcome (ResolvedQuery.AlikeWithin outer?) (t.resolve .rounding name k outer?)
      (liftOverflow ((ResolvedQuery.ofTree tree).scaled .rounding k)) := by
  have inherited : template.effectiveRange outer? = outer? := if_pos inherits
  have product : Arithmetic.rounding.mul k .one = Arithmetic.rounding.mul .one k :=
    Decimal.mul_comm k .one
  rw [resolve_of_get? found, once, product, items_eq, inherited]
  unfold ResolvedQuery.ofTree ResolvedQuery.scaled
  cases hscale : Arithmetic.rounding.mul .one k with
  | error o =>
    simp only [List.mapM_cons, hscale]
    exact .error _
  | ok scale =>
    simp only [List.mapM_cons, hscale, expand]
    exact .ok (.cons ⟨rfl, rfl, .inr ⟨rfl, rfl⟩⟩ .nil)

/-- It makes no difference to a report whether a name is resolved with the dates that can contribute to
it or without a range. A template that inherits its range and holds a single query gives the report on
that query. -/
theorem TemplateTable.resolve_contributingRange (t : TemplateTable) (name : String) (k : Decimal)
    (spec : ReportSpec) :
    SameOutcome spec.SameReports (t.resolve .rounding name k spec.contributingRange?)
      (t.resolve .rounding name k none) ∧
    ∀ template tree, t.get? name = some template → template.inheritsRange = true →
      template.items = [.query tree] → template.coefficient = .one →
      SameOutcome spec.SameReports (t.resolve .rounding name k spec.contributingRange?)
        (liftOverflow ((ResolvedQuery.ofTree tree).scaled .rounding k)) := by
  have same : ∀ {q q' : ResolvedQuery}, q.AlikeWithin spec.contributingRange? q' →
      spec.SameReports q q' := fun h stream => h.subtotal_eq .rounding stream
  constructor
  · exact (t.resolve_handedDown name k (.inr ⟨rfl, rfl⟩)).imp same
  · intro template tree found inherits items_eq once
    exact (resolve_single found inherits items_eq once k _).imp same

/-- Everything, once, for whatever dates the caller has. -/
def Template.running : Template := { everything with name := "running", coefficient := .one }

/-- The three days around the end of January, without groups. -/
def turnOfMonthTotal : ReportSpec := { turnOfMonth with levels := [] }

set_option maxRecDepth 4000 in
/-- What comes before the first day is carried in under the name as it is for the query itself: the five
of a refund without date. -/
theorem running_keeps_carryIn :
    TemplateTable.ofTemplates [.running] = .ok ⟨[.running]⟩ ∧
    ∃ q q', TemplateTable.resolve .rounding ⟨[.running]⟩ "running" .one
        turnOfMonthTotal.contributingRange? = .ok q ∧
      (ResolvedQuery.ofTree .all).scaled .rounding .one = .ok q' ∧
      turnOfMonthTotal.SameReports q q' ∧
      ∃ s, subtotal .rounding [.ok .sale, .ok .refund] q turnOfMonthTotal = .ok s ∧
        s.root.series?.map (·.carryIn) = Decimal.of? 5 0 := by
  have accepted : TemplateTable.ofTemplates [.running] = .ok ⟨[.running]⟩ := by cbv
  have once : (ResolvedQuery.ofTree .all).scaled .rounding .one = .ok (.ofTree .all) := by
    have one : Arithmetic.rounding.mul .one .one = .ok .one := by decide +kernel
    simp [ResolvedQuery.ofTree, ResolvedQuery.scaled, one]
  have same := (TemplateTable.resolve_contributingRange ⟨[.running]⟩ "running" .one
    turnOfMonthTotal).2 .running .all rfl rfl rfl rfl
  rw [once, liftOverflow_ok] at same
  generalize hresolve : TemplateTable.resolve .rounding ⟨[.running]⟩ "running" .one
    turnOfMonthTotal.contributingRange? = resolved at same
  cases same with
  | ok h =>
    refine ⟨accepted, _, _, rfl, once, h, ?_⟩
    rw [h]
    exact ⟨_, rfl, rfl⟩

end Daybook
