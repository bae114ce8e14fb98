import Daybook.Proofs.Decimal.Lossless
import Daybook.Proofs.Template.Expansion

/-!
# Coefficients of resolved queries

The coefficient that a name is resolved with becomes a factor of every leaf (`TemplateTable.resolve_times`),
however long the way to the leaf is. Multiplying the leaves afterwards comes to the same
(`ResolvedQuery.scaled_times`). Both hold for the numbers: decimals that are multiplied in another order may be
written with other places.
-/

namespace Daybook

variable {A B : Arithmetic} {t : TemplateTable} {path : List String} {scale scale' k k' : Decimal}
  {range? inherited? : Option DateRange} {items : List TemplateItem} {x : ℚ}
  {leaves leaves' : List ResolvedLeaf} {q q' p : ResolvedQuery} {name : String}

/-! ### Multiples of queries -/

/-- The leaf is the other one with its coefficient times a factor. -/
structure ResolvedLeaf.Times (x : ℚ) (leaf leaf' : ResolvedLeaf) : Prop where
  tree_eq : leaf.tree = leaf'.tree
  range?_eq : leaf.range? = leaf'.range?
  path_eq : leaf.path = leaf'.path
  value_coefficient : leaf.coefficient.value = x * leaf'.coefficient.value

/-- The query is the other one with all of its coefficients times a factor. -/
def ResolvedQuery.Times (x : ℚ) (q q' : ResolvedQuery) : Prop :=
  List.Forall₂ (ResolvedLeaf.Times x) q.leaves q'.leaves

lemma ResolvedLeaf.Times.accepts_eq {leaf leaf' : ResolvedLeaf} (h : leaf.Times x leaf') (e : Entry)
    (v : Voucher) : leaf.accepts e v = leaf'.accepts e v := by
  rw [accepts, accepts, h.tree_eq, h.range?_eq]

/-- Two multiples by the same factor have the same numbers. -/
lemma ResolvedQuery.Times.one_of_common (h : q.Times x p) (h' : q'.Times x p) : q.Times 1 q' := by
  obtain ⟨leaves⟩ := q
  obtain ⟨leaves'⟩ := q'
  obtain ⟨common⟩ := p
  change List.Forall₂ _ leaves common at h
  change List.Forall₂ _ leaves' common at h'
  change List.Forall₂ _ leaves leaves'
  induction h generalizing leaves' with
  | nil =>
    cases h'
    exact .nil
  | cons hleaf _ ih =>
    obtain _ | ⟨hleaf', h'⟩ := h'
    refine .cons ⟨?_, ?_, ?_, ?_⟩ (ih _ h')
    · exact hleaf.tree_eq.trans hleaf'.tree_eq.symm
    · exact hleaf.range?_eq.trans hleaf'.range?_eq.symm
    · exact hleaf.path_eq.trans hleaf'.path_eq.symm
    · rw [hleaf.value_coefficient, hleaf'.value_coefficient, one_mul]

/-- What is multiplied afterwards is a multiple. -/
lemma ResolvedQuery.scaled_times (h : q.scaled .lossless k = .ok q') : q'.Times k.value q := by
  obtain ⟨leaves', hleaves, h⟩ := bind_eq_ok.1 h
  cases h
  refine (mapM_eq_ok.1 hleaves).flip.imp fun leaf' leaf hleaf => ?_
  obtain ⟨c, hc, hleaf⟩ := bind_eq_ok.1 hleaf
  cases hleaf
  exact ⟨rfl, rfl, rfl, by rw [(Arithmetic.lossless_mul.1 hc).2, mul_comm]⟩

/-! ### Resolution with multiples -/

namespace TemplateTable

/-- A factor of the coefficient that items are expanded with is one of all leaves. -/
lemma expand_times (h : t.expand .lossless path scale range? items = .ok leaves)
    (h' : t.expand .lossless path scale' range? items = .ok leaves')
    (hscale : scale.value = x * scale'.value) :
    List.Forall₂ (ResolvedLeaf.Times x) leaves leaves' := by
  induction path, scale, range?, items using expand.induct t generalizing scale' leaves leaves' with
  | case1 =>
    rw [expand] at h h'
    cases h
    cases h'
    exact .nil
  | case2 path scale range? tree items ih =>
    rw [expand] at h h'
    obtain ⟨more, hmore, h⟩ := bind_eq_ok.1 h
    obtain ⟨more', hmore', h'⟩ := bind_eq_ok.1 h'
    cases h
    cases h'
    exact .cons ⟨rfl, rfl, rfl, hscale⟩ (ih hmore hmore' hscale)
  | case3 path scale range? name coefficient items hin =>
    rw [expand, dif_pos hin] at h
    cases h
  | case4 path scale range? name coefficient items hin missing =>
    rw [expand_unknown hin missing] at h
    cases h
  | case5 path scale range? name coefficient items hin template found _ ihBody ihRest =>
    rw [expand_reference hin found] at h h'
    obtain ⟨inner, hinner, h⟩ := bind_eq_ok.1 h
    obtain ⟨inner', hinner', h'⟩ := bind_eq_ok.1 h'
    obtain ⟨body, hbody, h⟩ := bind_eq_ok.1 h
    obtain ⟨body', hbody', h'⟩ := bind_eq_ok.1 h'
    obtain ⟨more, hmore, h⟩ := bind_eq_ok.1 h
    obtain ⟨more', hmore', h'⟩ := bind_eq_ok.1 h'
    cases h
    cases h'
    obtain ⟨a, ha, hinner⟩ := bind_eq_ok.1 (liftOverflow_eq_ok.1 hinner)
    obtain ⟨a', ha', hinner'⟩ := bind_eq_ok.1 (liftOverflow_eq_ok.1 hinner')
    have factor : inner.value = x * inner'.value := by
      rw [(Arithmetic.lossless_mul.1 hinner).2, (Arithmetic.lossless_mul.1 hinner').2,
        (Arithmetic.lossless_mul.1 ha).2, (Arithmetic.lossless_mul.1 ha').2, hscale]
      ring
    exact List.rel_append (ihBody inner hbody hbody' factor) (ihRest hmore hmore' hscale)

/-- So it is for a whole template. -/
theorem resolve_times (h : t.resolve .lossless name k inherited? = .ok q)
    (h' : t.resolve .lossless name k' inherited? = .ok q') (hk : k.value = x * k'.value) :
    q.Times x q' := by
  cases found : t.get? name with
  | none =>
    rw [resolve, found] at h
    cases h
  | some template =>
    rw [resolve_of_get? found] at h h'
    obtain ⟨scale, hscale, h⟩ := bind_eq_ok.1 h
    obtain ⟨scale', hscale', h'⟩ := bind_eq_ok.1 h'
    obtain ⟨leaves, hleaves, h⟩ := bind_eq_ok.1 h
    obtain ⟨leaves', hleaves', h'⟩ := bind_eq_ok.1 h'
    cases h
    cases h'
    refine expand_times hleaves hleaves' ?_
    rw [(Arithmetic.lossless_mul.1 (liftOverflow_eq_ok.1 hscale)).2,
      (Arithmetic.lossless_mul.1 (liftOverflow_eq_ok.1 hscale')).2, hk, mul_assoc]

/-- A name of an accepted table is resolved if nothing overflows. -/
lemma exists_resolve {template : Template} (hnames : (t.templates.map (·.name)).Nodup)
    (hcheck : t.check = .ok ()) (hmem : template ∈ t.templates)
    (h : ∀ o, t.resolve A template.name k inherited? ≠ .error (.overflow o)) :
    ∃ q, t.resolve A template.name k inherited? = .ok q := by
  obtain ⟨out, _, hresolve⟩ := resolve_of_mem (A := A) hnames hcheck hmem k inherited?
  rw [hresolve] at h ⊢
  cases out with
  | error o => exact absurd rfl (h o)
  | ok leaves => exact ⟨⟨leaves⟩, rfl⟩

end TemplateTable

/-! ### Resolution with a finer arithmetic -/

lemma ResolvedQuery.scaled_confirmed (h : A.Refines B) (q : ResolvedQuery) (k : Decimal) :
    ConfirmedBy (q.scaled A k) (q.scaled B k) := by
  intro q' hq'
  obtain ⟨leaves, hleaves, hq'⟩ := bind_eq_ok.1 hq'
  refine bind_eq_ok.2 ⟨leaves, mapM_eq_ok.2 ((mapM_eq_ok.1 hleaves).imp fun leaf leaf' hleaf => ?_), hq'⟩
  exact (h.mul leaf.coefficient k).bind (fun _ => .refl _) hleaf

namespace TemplateTable

lemma expand_confirmed (h : A.Refines B) (t : TemplateTable) (path : List String) (scale : Decimal)
    (range? : Option DateRange) (items : List TemplateItem) :
    ConfirmedBy (t.expand A path scale range? items) (t.expand B path scale range? items) := by
  induction path, scale, range?, items using expand.induct t with
  | case1 =>
    rw [expand, expand]
    exact .refl _
  | case2 path scale range? tree items ih =>
    rw [expand, expand]
    exact ih.bind fun _ => .refl _
  | case3 path scale range? name coefficient items hin =>
    rw [expand, expand, dif_pos hin, dif_pos hin]
    exact .refl _
  | case4 path scale range? name coefficient items hin missing =>
    rw [expand_unknown hin missing, expand_unknown hin missing]
    exact .refl _
  | case5 path scale range? name coefficient items hin template found _ ihBody ihRest =>
    have product : ConfirmedBy (A.mul scale coefficient >>= (A.mul · template.coefficient))
        (B.mul scale coefficient >>= (B.mul · template.coefficient)) :=
      (h.mul scale coefficient).bind fun a => h.mul a template.coefficient
    rw [expand_reference hin found, expand_reference hin found]
    refine product.lift.bind fun inner => ?_
    exact (ihBody inner).bind fun _ => ihRest.bind fun _ => .refl _

lemma resolve_confirmed (h : A.Refines B) (t : TemplateTable) (name : String) (k : Decimal)
    (inherited? : Option DateRange) :
    ConfirmedBy (t.resolve A name k inherited?) (t.resolve B name k inherited?) := by
  cases found : t.get? name with
  | none =>
    rw [resolve, resolve, found]
    exact .refl _
  | some template =>
    rw [resolve_of_get? found, resolve_of_get? found]
    refine (h.mul k template.coefficient).lift.bind fun scale => ?_
    exact (expand_confirmed h t _ _ _ _).bind fun _ => .refl _

end TemplateTable

end Daybook
