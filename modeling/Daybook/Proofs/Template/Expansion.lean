import Daybook.Proofs.Calendar.Day
import Daybook.Proofs.Decimal.Value
import Daybook.Proofs.Template.Acceptance
import Daybook.Proofs.Template.Passes

/-!
# Expansion of templates

What a name of an accepted table stands for is said by `Expands`, the plain expansion of references: it
does not keep track of the templates that it is in. Resolution ends with what the expansion ends with
(`resolve_eq_expansion`), so on accepted tables its watch for cycles never strikes.
-/

namespace Daybook

variable {A : Arithmetic} {templates : List Template} {template : Template} {t : TemplateTable}
  {path order : List String} {scale : Decimal} {range? inherited? : Option DateRange}
  {item : TemplateItem} {items : List TemplateItem} {leaf : ResolvedLeaf} {leaves : List ResolvedLeaf}
  {out : Except Overflow (List ResolvedLeaf)}

/-! ### Plain expansion -/

/-- What a list of items comes to under a coefficient, a range and the names of the templates around
them: its leaves in order, or the first overflow of a product of coefficients. -/
inductive Expands (A : Arithmetic) (templates : List Template) : List String → Decimal →
    Option DateRange → List TemplateItem → Except Overflow (List ResolvedLeaf) → Prop
  | nil {path : List String} {scale : Decimal} {range? : Option DateRange} :
      Expands A templates path scale range? [] (.ok [])
  | query {path : List String} {scale : Decimal} {range? : Option DateRange} {tree : FilterTree}
      {items : List TemplateItem} {out : Except Overflow (List ResolvedLeaf)}
      (rest : Expands A templates path scale range? items out) :
      Expands A templates path scale range? (.query tree :: items)
        ((⟨tree, scale, range?, path⟩ :: ·) <$> out)
  | reference {path : List String} {scale coefficient inner : Decimal} {range? : Option DateRange}
      {name : String} {template : Template} {items : List TemplateItem}
      {out out' : Except Overflow (List ResolvedLeaf)}
      (mem : template ∈ templates) (named : template.name = name)
      (product : A.mul scale coefficient >>= (A.mul · template.coefficient) = .ok inner)
      (body : Expands A templates (path ++ [name]) inner (template.effectiveRange range?)
        template.items out)
      (rest : Expands A templates path scale range? items out') :
      Expands A templates path scale range? (.reference name coefficient :: items)
        (do return (← out) ++ (← out'))
  | overflow {path : List String} {scale coefficient : Decimal} {range? : Option DateRange}
      {name : String} {template : Template} {items : List TemplateItem} {o : Overflow}
      (mem : template ∈ templates) (named : template.name = name)
      (product : A.mul scale coefficient >>= (A.mul · template.coefficient) = .error o) :
      Expands A templates path scale range? (.reference name coefficient :: items) (.error o)

/-- What a template comes to for a caller with a coefficient and a range. -/
inductive Template.StandsFor (A : Arithmetic) (templates : List Template) (template : Template)
    (coefficient : Decimal) (inherited? : Option DateRange) :
    Except Overflow (List ResolvedLeaf) → Prop
  | scaled {scale : Decimal} {out : Except Overflow (List ResolvedLeaf)}
      (product : A.mul coefficient template.coefficient = .ok scale)
      (body : Expands A templates [template.name] scale (template.effectiveRange inherited?)
        template.items out) :
      StandsFor A templates template coefficient inherited? out
  | overflow {o : Overflow} (product : A.mul coefficient template.coefficient = .error o) :
      StandsFor A templates template coefficient inherited? (.error o)

/-- The range at the end of a chain of references: that of the last template with a range of its own, or
that of the caller if there is none. -/
def Template.rangeAlong (chain : List Template) (inherited? : Option DateRange) : Option DateRange :=
  match chain.reverse.find? (!·.inheritsRange) with
  | some template => template.range?
  | none          => inherited?

lemma Template.rangeAlong_concat (chain : List Template) (template : Template)
    (inherited? : Option DateRange) : rangeAlong (chain ++ [template]) inherited?
      = template.effectiveRange (rangeAlong chain inherited?) := by
  unfold rangeAlong effectiveRange
  rw [List.reverse_concat, List.find?_cons]
  cases template.inheritsRange <;> rfl

namespace Expands

/-- Where names are distinct, there is one expansion. -/
theorem unique (hnames : (templates.map (·.name)).Nodup)
    (h : Expands A templates path scale range? items out) {out' : Except Overflow (List ResolvedLeaf)}
    (h' : Expands A templates path scale range? items out') : out = out' := by
  have same : ∀ {x y : Template}, x ∈ templates → y ∈ templates → x.name = y.name → x = y :=
    fun hx hy => List.inj_on_of_nodup_map hnames hx hy
  induction h generalizing out' with
  | nil =>
    cases h'
    rfl
  | query _ ih =>
    cases h' with
    | query rest => rw [ih rest]
  | reference mem named product _ _ ihBody ihRest =>
    cases h' with
    | reference mem' named' product' body rest =>
      obtain rfl := same mem mem' (named.trans named'.symm)
      obtain rfl := Except.ok.inj (product.symm.trans product')
      rw [ihBody body, ihRest rest]
    | overflow mem' named' product' =>
      obtain rfl := same mem mem' (named.trans named'.symm)
      cases product.symm.trans product'
  | overflow mem named product =>
    cases h' with
    | reference mem' named' product' body rest =>
      obtain rfl := same mem mem' (named.trans named'.symm)
      cases product.symm.trans product'
    | overflow mem' named' product' =>
      obtain rfl := same mem mem' (named.trans named'.symm)
      obtain rfl := Except.error.inj (product.symm.trans product')
      rfl

/-- Every leaf is at the end of a chain of references, and has its range from there. -/
theorem exists_chain (h : Expands A templates path scale range? items out) {chain : List Template}
    (hchain : ∀ x ∈ chain, x ∈ templates) (hpath : chain.map (·.name) = path)
    (hrange : Template.rangeAlong chain inherited? = range?) (hout : out = .ok leaves)
    (hleaf : leaf ∈ leaves) :
    ∃ chain : List Template, (∀ x ∈ chain, x ∈ templates) ∧ leaf.path = chain.map (·.name) ∧
      leaf.range? = Template.rangeAlong chain inherited? := by
  induction h generalizing chain leaves with
  | nil =>
    cases hout
    cases hleaf
  | query _ ih =>
    obtain ⟨more, hmore, rfl⟩ := map_eq_ok.1 hout
    rcases List.mem_cons.1 hleaf with rfl | hleaf
    · exact ⟨chain, hchain, hpath.symm, hrange.symm⟩
    · exact ih hchain hpath hrange hmore hleaf
  | @reference path' _ _ _ _ name template _ _ _ mem named _ _ _ ihBody ihRest =>
    obtain ⟨inner, hinner, hout⟩ := bind_eq_ok.1 hout
    obtain ⟨more, hmore, hout⟩ := bind_eq_ok.1 hout
    cases hout
    rcases List.mem_append.1 hleaf with hleaf | hleaf
    · -- from inside of the template, whose name is on the path now
      have hchain' : ∀ x ∈ chain ++ [template], x ∈ templates := by
        simpa [or_imp, forall_and] using ⟨hchain, mem⟩
      have hpath' : (chain ++ [template]).map (·.name) = path' ++ [name] := by simp [hpath, named]
      have hrange' := Template.rangeAlong_concat chain template inherited?
      rw [hrange] at hrange'
      exact ihBody hchain' hpath' hrange' hinner hleaf
    · exact ihRest hchain hpath hrange hmore hleaf
  | overflow => cases hout

end Expands

namespace Template.StandsFor

variable {coefficient : Decimal}

lemma unique (hnames : (templates.map (·.name)).Nodup)
    (h : template.StandsFor A templates coefficient inherited? out)
    {out' : Except Overflow (List ResolvedLeaf)}
    (h' : template.StandsFor A templates coefficient inherited? out') : out = out' := by
  cases h with
  | scaled product body =>
    cases h' with
    | scaled product' body' =>
      obtain rfl := Except.ok.inj (product.symm.trans product')
      exact body.unique hnames body'
    | overflow product' => cases product.symm.trans product'
  | overflow product =>
    cases h' with
    | scaled product' _ => cases product.symm.trans product'
    | overflow product' =>
      obtain rfl := Except.error.inj (product.symm.trans product')
      rfl

lemma exists_chain (h : template.StandsFor A templates coefficient inherited? out)
    (hmem : template ∈ templates) (hout : out = .ok leaves) (hleaf : leaf ∈ leaves) :
    ∃ chain : List Template, (∀ x ∈ chain, x ∈ templates) ∧ leaf.path = chain.map (·.name) ∧
      leaf.range? = Template.rangeAlong chain inherited? := by
  cases h with
  | scaled _ body =>
    have hrange := Template.rangeAlong_concat [] template inherited?
    exact body.exists_chain (by simpa using hmem) rfl hrange hout hleaf
  | overflow => cases hout

end Template.StandsFor

/-! ### Resolution -/

namespace TemplateTable

/-- No name repeats on the way to a leaf. -/
lemma nodup_path_of_expand (h : t.expand A path scale range? items = .ok leaves)
    (hpath : path.Nodup) (hleaf : leaf ∈ leaves) : leaf.path.Nodup := by
  induction path, scale, range?, items using expand.induct t generalizing leaves with
  | case1 =>
    rw [expand] at h
    cases h
    cases hleaf
  | case2 path scale range? tree items ih =>
    rw [expand] at h
    obtain ⟨more, hmore, h⟩ := bind_eq_ok.1 h
    cases h
    rcases List.mem_cons.1 hleaf with rfl | hleaf
    · exact hpath
    · exact ih hmore hpath hleaf
  | case3 path scale range? name coefficient items hin =>
    rw [expand, dif_pos hin] at h
    cases h
  | case4 path scale range? name coefficient items hin missing =>
    rw [expand_unknown hin missing] at h
    cases h
  | case5 path scale range? name coefficient items hin template found _ ihBody ihRest =>
    -- the name was not on the path, so it can be added to it
    rw [expand_reference hin found] at h
    obtain ⟨inner, _, h⟩ := bind_eq_ok.1 h
    obtain ⟨body, hbody, h⟩ := bind_eq_ok.1 h
    obtain ⟨more, hmore, h⟩ := bind_eq_ok.1 h
    cases h
    have hentered : (path ++ [name]).Nodup := by simpa using hpath.concat hin
    rcases List.mem_append.1 hleaf with hleaf | hleaf
    · exact ihBody inner hbody hentered hleaf
    · exact ihRest hmore hpath hleaf

/-- Items that refer to names in order expand without an error. The names around them are not in order
any more. -/
theorem Ordered.exists_expansion {path order : List String} (h : t.Ordered order)
    (hpath : ∀ name ∈ path, name ∉ order) (scale : Decimal) (range? : Option DateRange) :
    ∀ {items : List TemplateItem},
      (∀ item ∈ items, ∀ name, item.target? = some name → name ∈ order) →
      ∃ out, Expands A t.templates path scale range? items out ∧
        t.expand A path scale range? items = liftOverflow out
  | [], _ => ⟨_, .nil, by rw [expand]; rfl⟩
  | .query tree :: items, hitems => by
    obtain ⟨_, hitems⟩ := List.forall_mem_cons.1 hitems
    obtain ⟨out, hout, hexpand⟩ := h.exists_expansion hpath scale range? hitems
    refine ⟨_, .query hout, ?_⟩
    rw [expand, hexpand]
    cases out <;> rfl
  | .reference name coefficient :: items, hitems => by
    obtain ⟨hname, hitems⟩ := List.forall_mem_cons.1 hitems
    obtain ⟨template, later, found, hlater, fresh, ordered, hsub, hlength⟩ :=
      h.exists_later (hname name rfl)
    have hmem := mem_of_get? found
    have hnamed := name_of_get? found
    rw [expand_reference (fun hin => hpath name hin (hname name rfl)) found]
    cases hproduct : A.mul scale coefficient >>= (A.mul · template.coefficient) with
    | error o => exact ⟨_, .overflow hmem hnamed hproduct, rfl⟩
    | ok inner =>
      -- what a template refers to is behind it, so the names around are none of these
      have around : ∀ other ∈ path ++ [name], other ∉ later := by
        intro other hother
        rcases List.mem_append.1 hother with hother | hother
        · exact fun h => hpath other hother (hsub h)
        · rwa [List.mem_singleton.1 hother]
      have inside : ∀ item ∈ template.items, ∀ r, item.target? = some r → r ∈ later :=
        fun item hitem r hr => hlater r (List.mem_filterMap.2 ⟨item, hitem, hr⟩)
      obtain ⟨out, body, hbody⟩ :=
        ordered.exists_expansion around inner (template.effectiveRange range?) inside
      obtain ⟨out', rest, hrest⟩ := h.exists_expansion hpath scale range? hitems
      refine ⟨_, .reference hmem hnamed hproduct body rest, ?_⟩
      rw [liftOverflow_ok, ok_bind, hbody, hrest]
      cases out <;> cases out' <;> rfl
termination_by items => (order.length, items.length)

/-- In an accepted table, what a template is resolved to is what it stands for. -/
lemma resolve_of_mem (hnames : (t.templates.map (·.name)).Nodup) (hcheck : t.check = .ok ())
    (hmem : template ∈ t.templates) (coefficient : Decimal) (inherited? : Option DateRange) :
    ∃ out, template.StandsFor A t.templates coefficient inherited? out ∧
      t.resolve A template.name coefficient inherited? = liftOverflow (ResolvedQuery.mk <$> out) := by
  obtain ⟨order, ordered, hall⟩ := exists_ordered hcheck
  have found := get?_of_mem hnames hmem
  obtain ⟨other, later, found', hlater, fresh, ordered', _⟩ := ordered.exists_later (hall _ hmem)
  obtain rfl := Option.some.inj (found.symm.trans found')
  have around : ∀ name ∈ [template.name], name ∉ later := by simpa using fresh
  have inside : ∀ item ∈ template.items, ∀ r, item.target? = some r → r ∈ later :=
    fun item hitem r hr => hlater r (List.mem_filterMap.2 ⟨item, hitem, hr⟩)
  rw [resolve_of_get? found]
  cases hproduct : A.mul coefficient template.coefficient with
  | error o => exact ⟨_, .overflow hproduct, rfl⟩
  | ok scale =>
    obtain ⟨out, body, hbody⟩ :=
      ordered'.exists_expansion around scale (template.effectiveRange inherited?) inside
    refine ⟨out, .scaled hproduct body, ?_⟩
    rw [liftOverflow_ok, ok_bind, hbody]
    cases out <;> rfl

lemma nodup_path_of_resolve {name : String} {coefficient : Decimal} {query : ResolvedQuery}
    (h : t.resolve A name coefficient inherited? = .ok query) (hleaf : leaf ∈ query.leaves) :
    leaf.path.Nodup := by
  cases found : t.get? name with
  | none =>
    rw [resolve, found] at h
    cases h
  | some template =>
    rw [resolve_of_get? found] at h
    obtain ⟨scale, _, h⟩ := bind_eq_ok.1 h
    obtain ⟨leaves, hleaves, h⟩ := bind_eq_ok.1 h
    cases h
    exact nodup_path_of_expand hleaves (List.nodup_singleton name) hleaf

/-- Every name of an accepted table stands for what its template expands to, and for nothing else. Leaves
have their ranges from the last template on their path that does not inherit its range, or else from the
caller, and no name is twice on a path. Only a name that is not in the table is unknown. -/
theorem resolve_eq_expansion (h : ofTemplates templates = .ok t) (A : Arithmetic)
    (coefficient : Decimal) (inherited? : Option DateRange) :
    (∀ template ∈ templates, ∃ out,
      template.StandsFor A templates coefficient inherited? out ∧
      (∀ out', template.StandsFor A templates coefficient inherited? out' → out' = out) ∧
      t.resolve A template.name coefficient inherited? = liftOverflow (ResolvedQuery.mk <$> out) ∧
      ∀ leaves, out = .ok leaves → ∀ leaf ∈ leaves, leaf.path.Nodup ∧
        ∃ chain : List Template, (∀ x ∈ chain, x ∈ templates) ∧ leaf.path = chain.map (·.name) ∧
          leaf.range? = Template.rangeAlong chain inherited?) ∧
    ∀ name, (∀ template ∈ templates, template.name ≠ name) →
      t.resolve A name coefficient inherited? = .error (.error (.unknownTemplate name)) := by
  obtain ⟨rfl, hnames, hcheck⟩ := ofTemplates_eq_ok.1 h
  constructor
  · intro template hmem
    obtain ⟨out, stands, hresolve⟩ := resolve_of_mem hnames hcheck hmem coefficient inherited?
    refine ⟨out, stands, fun out' stands' => stands'.unique hnames stands, hresolve, ?_⟩
    rintro leaves rfl leaf hleaf
    exact ⟨nodup_path_of_resolve hresolve hleaf, stands.exists_chain hmem rfl hleaf⟩
  · intro name hname
    have missing : get? ⟨templates⟩ name = none :=
      List.find?_eq_none.2 fun template hmem => by simpa using hname template hmem
    rw [resolve, missing]

end TemplateTable

namespace Template

/-- Everything, twice. -/
def everything : Template := ⟨"all", [.query .all], .two, true, none, none⟩

/-- What was there before February, taken off again. -/
def earlier : Template :=
  ⟨"old", [.reference "all" .one], .minusOne, false, some (.upTo .january30), none⟩

/-- Refers to everything in two ways. -/
def change : Template :=
  ⟨"new", [.reference "all" .one, .reference "old" .one, .query .all], .one, true, none, none⟩

end Template

def changeTemplates : List Template := [.everything, .earlier, .change]

/-- One template is used in two ways, once in the range of a template between. -/
def changeLeaves : List ResolvedLeaf :=
  [⟨.all, .two, some .onlyUndated, ["new", "all"]⟩,
    ⟨.all, .minusTwo, some (.upTo .january30), ["new", "old", "all"]⟩,
    ⟨.all, .one, some .onlyUndated, ["new"]⟩]

theorem change_resolves : TemplateTable.ofTemplates changeTemplates = .ok ⟨changeTemplates⟩ ∧
    TemplateTable.resolve .rounding ⟨changeTemplates⟩ "new" .one (some .onlyUndated)
      = .ok ⟨changeLeaves⟩ := by
  have accepted : TemplateTable.ofTemplates changeTemplates = .ok ⟨changeTemplates⟩ := by cbv
  have stands : Template.change.StandsFor .rounding changeTemplates .one (some .onlyUndated)
      (.ok changeLeaves) := by
    have hall : Template.everything ∈ changeTemplates := by simp [changeTemplates]
    have hold : Template.earlier ∈ changeTemplates := by simp [changeTemplates]
    have one : Arithmetic.rounding.mul .one Template.change.coefficient = .ok .one := by
      decide +kernel
    have two : Arithmetic.rounding.mul .one .one >>=
        (Arithmetic.rounding.mul · Template.everything.coefficient) = .ok .two := by decide +kernel
    have minusOne : Arithmetic.rounding.mul .one .one >>=
        (Arithmetic.rounding.mul · Template.earlier.coefficient) = .ok .minusOne := by decide +kernel
    have minusTwo : Arithmetic.rounding.mul .minusOne .one >>=
        (Arithmetic.rounding.mul · Template.everything.coefficient) = .ok .minusTwo := by
      decide +kernel
    have items : Expands .rounding changeTemplates ["new"] .one (some .onlyUndated)
        [.reference "all" .one, .reference "old" .one, .query .all] _ :=
      .reference hall rfl two (.query .nil) <|
        .reference hold rfl minusOne (.reference hall rfl minusTwo (.query .nil) .nil) (.query .nil)
    exact .scaled one items
  obtain ⟨out, _, unique, hresolve, _⟩ := (TemplateTable.resolve_eq_expansion accepted .rounding
    .one (some .onlyUndated)).1 .change (by simp [changeTemplates])
  rw [← unique _ stands] at hresolve
  exact ⟨accepted, hresolve⟩

end Daybook
