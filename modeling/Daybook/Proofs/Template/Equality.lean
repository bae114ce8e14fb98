import Daybook.Proofs.Query.Equality
import Daybook.Proofs.Template.Acceptance

/-!
# Templates that are the same

Templates are the same if their queries are, and if their coefficients have the same values with as many
places. Whether a list of templates is accepted depends only on names and references
(`TemplateTable.check_eq`), so specifications that are the same come to the same table or to the same error
(`TemplateTable.ofSpecs_same`).
-/

namespace Daybook

variable {name : String}

/-! ### Specifications and templates -/

/-- The same query, or a reference to the same template with the same coefficient. -/
inductive TemplateItemSpec.SameAs : TemplateItemSpec → TemplateItemSpec → Prop
  | query {q q' : QueryExpr} (h : q.SameAs q') : SameAs (.query q) (.query q')
  | reference (name : String) {k k' : Decimal} (h : k.SameAs k') :
    SameAs (.reference name k) (.reference name k')

/-- The same template as it is written. -/
structure TemplateSpec.SameAs (s s' : TemplateSpec) : Prop where
  items : List.Forall₂ TemplateItemSpec.SameAs s.items s'.items
  coefficient : s.coefficient.SameAs s'.coefficient
  others_eq : { s with items := s'.items, coefficient := s'.coefficient } = s'

/-- The same tree, or a reference to the same template with the same coefficient. -/
inductive TemplateItem.SameAs : TemplateItem → TemplateItem → Prop
  | query {t t' : FilterTree} (h : t.SameAs t') : SameAs (.query t) (.query t')
  | reference (name : String) {k k' : Decimal} (h : k.SameAs k') :
    SameAs (.reference name k) (.reference name k')

/-- The same template. -/
structure Template.SameAs (t t' : Template) : Prop where
  items : List.Forall₂ TemplateItem.SameAs t.items t'.items
  coefficient : t.coefficient.SameAs t'.coefficient
  others_eq : { t with items := t'.items, coefficient := t'.coefficient } = t'

/-- The same templates in the same order. -/
def TemplateTable.SameAs (t t' : TemplateTable) : Prop :=
  List.Forall₂ Template.SameAs t.templates t'.templates

/-! ### Compilation -/

lemma TemplateItemSpec.SameAs.compile {item item' : TemplateItemSpec} (h : item.SameAs item') :
    SameOutcome TemplateItem.SameAs item.compile item'.compile := by
  cases h with
  | query h => exact h.compile.bind fun _ _ same => .ok (.query same)
  | reference name h => exact .ok (.reference name h)

lemma TemplateSpec.SameAs.ofSpec {s s' : TemplateSpec} (h : s.SameAs s') :
    SameOutcome Template.SameAs (Template.ofSpec s) (Template.ofSpec s') := by
  obtain ⟨items, coefficient, others_eq⟩ := h
  rw [← others_eq]
  refine (SameOutcome.mapM items fun _ _ same => same.compile).bind fun _ _ same => .ok ?_
  exact ⟨same, coefficient, rfl⟩

/-! ### References -/

namespace Template.SameAs

variable {t t' : Template}

lemma name_eq (h : t.SameAs t') : t.name = t'.name := by
  rw [← h.others_eq]

lemma references_eq (h : t.SameAs t') : t.references = t'.references := by
  rw [references, references, ← List.forall₂_eq_eq_eq]
  refine List.rel_filterMap (fun _ _ same => ?_) h.items
  cases same with
  | query _ => exact .none
  | reference name _ => exact .some rfl

end Template.SameAs

/-! ### Tables -/

namespace TemplateTable

variable {t t' : TemplateTable} {path done names more : List String}

lemma follow_unknown (hname : name ∉ done) (hpath : name ∉ path) (missing : t.get? name = none) :
    t.follow path done (name :: more) = .error (.unknownTemplate name) := by
  rw [follow, if_neg (by simpa using hname), dif_neg hpath]
  split
  · rfl
  · simp_all

/-- A name that leads to a template leads to one in every table in which it leads to the same references. -/
lemma exists_get?_of_references {template : Template}
    (h : (t.get? name).map (·.references) = (t'.get? name).map (·.references))
    (found : t.get? name = some template) :
    ∃ template', t'.get? name = some template' ∧ template'.references = template.references := by
  rw [found] at h
  exact Option.map_eq_some_iff.1 h.symm

/-- References are followed in the same way if each name leads to the same references. -/
lemma follow_eq
    (h : ∀ name, (t.get? name).map (·.references) = (t'.get? name).map (·.references))
    (path done names : List String) : t.follow path done names = t'.follow path done names := by
  induction path, done, names using follow.induct t with
  | case1 path done => rw [follow, follow]
  | case2 path done name more finished ih =>
    rw [follow, follow, if_pos finished, if_pos finished, ih]
  | case3 path done name more new back =>
    rw [follow, follow, if_neg new, if_neg new, dif_pos back, dif_pos back]
  | case4 path done name more new forth missing =>
    have missing' : t'.get? name = none := by
      rw [← Option.map_eq_none_iff, ← h name, missing, Option.map_none]
    have hname : name ∉ done := by simpa using new
    rw [follow_unknown hname forth missing, follow_unknown hname forth missing']
  | case5 path done name more new forth template found _ e inner ih =>
    obtain ⟨template', found', same⟩ := exists_get?_of_references (h name) found
    have hname : name ∉ done := by simpa using new
    rw [follow_enter hname forth found, follow_enter hname forth found', same, ← ih, inner]
    rfl
  | case6 path done name more new forth template found _ done₁ inner ih ih' =>
    obtain ⟨template', found', same⟩ := exists_get?_of_references (h name) found
    have hname : name ∉ done := by simpa using new
    rw [follow_enter hname forth found, follow_enter hname forth found', same, ← ih, inner, ok_bind,
      ok_bind, ih']

lemma references_of_get? (h : t.SameAs t') (name : String) :
    (t.get? name).map (·.references) = (t'.get? name).map (·.references) := by
  obtain ⟨templates⟩ := t
  obtain ⟨templates'⟩ := t'
  change List.Forall₂ _ templates templates' at h
  unfold get?
  induction h with
  | nil => rfl
  | cons same _ ih =>
    rw [List.find?_cons, List.find?_cons, same.name_eq]
    split
    · exact congrArg some same.references_eq
    · exact ih

lemma map_name_eq {templates templates' : List Template}
    (h : List.Forall₂ Template.SameAs templates templates') :
    templates.map (·.name) = templates'.map (·.name) := by
  rw [← List.forall₂_eq_eq_eq, List.forall₂_map_left_iff, List.forall₂_map_right_iff]
  exact h.imp fun _ _ same => same.name_eq

/-- The same tables are accepted, or refused for the same reason. -/
lemma check_eq (h : t.SameAs t') : t.check = t'.check := by
  have names_eq : t.names = t'.names := by rw [names, names, map_name_eq h]
  rw [check, check, names_eq, follow_eq (references_of_get? h)]

lemma ofTemplates_same {templates templates' : List Template}
    (h : List.Forall₂ Template.SameAs templates templates') :
    SameOutcome SameAs (ofTemplates templates) (ofTemplates templates') := by
  have checked : check ⟨templates⟩ = check ⟨templates'⟩ := check_eq h
  unfold ofTemplates
  rw [map_name_eq h, checked]
  split
  · exact .error _
  · exact .bind_left _ fun _ => .ok h

/-- Specifications that are the same come to the same table, or to the same error. -/
theorem ofSpecs_same {specs specs' : List TemplateSpec}
    (h : List.Forall₂ TemplateSpec.SameAs specs specs') :
    SameOutcome SameAs (ofSpecs specs) (ofSpecs specs') := by
  unfold ofSpecs
  exact (SameOutcome.mapM h fun _ _ same => same.ofSpec).bind fun _ _ same => ofTemplates_same same

end TemplateTable

end Daybook
