import Daybook.Proofs.Outcome
import Daybook.Template.Table

/-!
# Accepted tables of templates

The names of an accepted table can be put in an order in which every template refers to later ones only
(`TemplateTable.Ordered`): the search for cycles finishes them in the reverse of such an order, see
`follow_finishes` and `exists_ordered`.
-/

namespace Daybook

namespace TemplateTable

variable {t : TemplateTable} {templates : List Template} {template : Template} {name : String}
  {path done done' names order : List String}

/-! ### Looking up -/

lemma mem_names : name ∈ t.names ↔ ∃ template ∈ t.templates, template.name = name := by
  rw [names, (List.mergeSort_perm _ _).mem_iff, List.mem_map]

/-- Where names are distinct, every template is found by its name. -/
lemma get?_of_mem (hnames : (t.templates.map (·.name)).Nodup) (h : template ∈ t.templates) :
    t.get? template.name = some template := by
  cases hget : t.get? template.name with
  | none =>
    have hne := List.find?_eq_none.1 hget template h
    simp at hne
  | some other =>
    rw [List.inj_on_of_nodup_map hnames (mem_of_get? hget) h (name_of_get? hget)]

lemma firstRepeated?_eq_none {seen : List String} :
    firstRepeated? seen names = none ↔ names.Nodup ∧ ∀ name ∈ names, name ∉ seen := by
  induction names generalizing seen with
  | nil => simp [firstRepeated?]
  | cons name names ih =>
    rw [firstRepeated?]
    split
    · simp_all
    · rw [ih]
      simp_all only [List.contains_eq_mem, List.mem_cons, List.nodup_cons]
      grind

lemma ofTemplates_eq_ok : ofTemplates templates = .ok t ↔
    t = ⟨templates⟩ ∧ (templates.map (·.name)).Nodup ∧ t.check = .ok () := by
  unfold ofTemplates
  cases hrep : firstRepeated? [] (templates.map (·.name)) with
  | some name =>
    have hdup : ¬ (templates.map (·.name)).Nodup := by
      intro hnodup
      rw [firstRepeated?_eq_none.2 ⟨hnodup, fun _ _ => List.not_mem_nil⟩] at hrep
      cases hrep
    simp [hdup]
  | none =>
    rw [bind_eq_ok]
    constructor
    · rintro ⟨_, hcheck, h⟩
      cases h
      exact ⟨rfl, (firstRepeated?_eq_none.1 hrep).1, hcheck⟩
    · rintro ⟨rfl, _, hcheck⟩
      exact ⟨(), hcheck, rfl⟩

/-! ### Templates in order -/

/-- Distinct names of templates, each of which refers to later ones only. -/
inductive Ordered (t : TemplateTable) : List String → Prop
  | nil : Ordered t []
  | cons {name : String} {names : List String} {template : Template}
      (found : t.get? name = some template) (later : ∀ r ∈ template.references, r ∈ names)
      (fresh : name ∉ names) (rest : Ordered t names) : Ordered t (name :: names)

/-- Behind any name, what its template refers to is in order. -/
lemma Ordered.exists_later (h : t.Ordered order) (hname : name ∈ order) :
    ∃ template later, t.get? name = some template ∧ (∀ r ∈ template.references, r ∈ later) ∧
      name ∉ later ∧ t.Ordered later ∧ later ⊆ order ∧ later.length < order.length := by
  induction h with
  | nil => cases hname
  | @cons first names template found later fresh rest ih =>
    rcases List.mem_cons.1 hname with rfl | hname
    · exact ⟨template, names, found, later, fresh, rest, List.subset_cons_self _ _, by simp⟩
    · obtain ⟨template, names', found', later', fresh', rest', hsub, hlength⟩ := ih hname
      exact ⟨template, names', found', later', fresh', rest', List.subset_cons_of_subset _ hsub,
        by rw [List.length_cons]; omega⟩

/-! ### The search -/

/-- What following references from the end of a path adds to the names that are done. -/
structure Finishes (t : TemplateTable) (path done names done' : List String) : Prop where
  ordered : t.Ordered done'
  kept : done ⊆ done'
  followed : names ⊆ done'
  /-- What is new is not on the path. -/
  off_path : ∀ name ∈ done', name ∈ done ∨ name ∉ path

/-- A template is done when all that it refers to is done. -/
lemma Finishes.enter {more : List String} (hname : name ∉ done) (hpath : name ∉ path)
    (found : t.get? name = some template)
    (inner : t.Finishes (path ++ [name]) done template.references.reverse done')
    {done'' : List String} (outer : t.Ordered (name :: done') →
      t.Finishes path (name :: done') more done'') :
    t.Finishes path done (name :: more) done'' := by
  -- what is new inside is not on the path there, and the name is
  have fresh : name ∉ done' := fun h => (inner.off_path name h).elim hname (by simp)
  have later : ∀ r ∈ template.references, r ∈ done' :=
    fun r hr => inner.followed (List.mem_reverse.2 hr)
  obtain ⟨ordered, kept, followed, off_path⟩ := outer (.cons found later fresh inner.ordered)
  have first : name ∈ done'' := kept List.mem_cons_self
  refine ⟨ordered, ?_, List.cons_subset.2 ⟨first, followed⟩, fun other hother => ?_⟩
  · exact fun other hother => kept (List.mem_cons_of_mem _ (inner.kept hother))
  · rcases off_path other hother with hmem | hoff
    · rcases List.mem_cons.1 hmem with rfl | hmem
      · exact .inr hpath
      · exact (inner.off_path other hmem).imp_right fun h hother =>
          h (List.mem_append_left _ hother)
    · exact .inr hoff

lemma follow_enter {more : List String} (hname : name ∉ done) (hpath : name ∉ path)
    (found : t.get? name = some template) : t.follow path done (name :: more)
      = t.follow (path ++ [name]) done template.references.reverse >>=
          fun done' => t.follow path (name :: done') more := by
  rw [follow, if_neg (by simpa using hname), dif_neg hpath]
  split
  · simp_all
  · next other hother =>
    obtain rfl : other = template := Option.some.inj (hother.symm.trans found)
    cases t.follow (path ++ [name]) done other.references.reverse <;> rfl

theorem follow_finishes (h : t.follow path done names = .ok done') (hdone : t.Ordered done) :
    t.Finishes path done names done' := by
  induction path, done, names using follow.induct t generalizing done' with
  | case1 path done =>
    rw [follow] at h
    cases h
    exact ⟨hdone, List.Subset.refl _, List.nil_subset _, fun _ hname => .inl hname⟩
  | case2 path done name more hmem ih =>
    rw [follow, if_pos hmem] at h
    obtain ⟨ordered, kept, followed, off_path⟩ := ih h hdone
    have first : name ∈ done' := kept (List.contains_iff_mem.1 hmem)
    exact ⟨ordered, kept, List.cons_subset.2 ⟨first, followed⟩, off_path⟩
  | case3 path done name more hmem hpath =>
    rw [follow, if_neg hmem, dif_pos hpath] at h
    cases h
  | case4 path done name more hmem hpath found =>
    rw [follow, if_neg hmem, dif_neg hpath] at h
    split at h
    · cases h
    · simp_all
  | case5 path done name more hmem hpath template found hlt e inner ih =>
    rw [follow_enter (by simpa using hmem) hpath found, inner] at h
    cases h
  | case6 path done name more hmem hpath template found hlt done₁ inner ih ih' =>
    have hname : name ∉ done := by simpa using hmem
    rw [follow_enter hname hpath found, inner] at h
    exact .enter hname hpath found (ih inner hdone) (ih' h)

/-- The templates of an accepted table can be put in order. -/
theorem exists_ordered (h : t.check = .ok ()) :
    ∃ order, t.Ordered order ∧ ∀ template ∈ t.templates, template.name ∈ order := by
  obtain ⟨order, hfollow, _⟩ := map_eq_ok.1 h
  have finishes := follow_finishes hfollow .nil
  exact ⟨order, finishes.ordered,
    fun template hmem => finishes.followed (mem_names.2 ⟨template, hmem, rfl⟩)⟩

end TemplateTable

end Daybook
