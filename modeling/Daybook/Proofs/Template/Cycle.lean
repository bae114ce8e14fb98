import Daybook.Proofs.Template.Acceptance

/-!
# Which templates are accepted

A list of templates is accepted exactly if it is `Template.Acceptable`: names are distinct, references lead
to templates of the list, and no reference leads back to where it came from. If it is not accepted, what
the error says is true of the list (`QueryError.Blames`): a name that is given twice, a reference that
leads nowhere, or a cycle of references (`Template.Cycle`). See `accepted_iff`.

The search for cycles goes along a path of references (`TemplateTable.Way`), so a name that comes up on
its own path closes a cycle, see `follow_blames`.
-/

namespace Daybook

variable {templates : List Template} {template : Template} {a b name : String} {chain : List String}

namespace Template

/-- A template with the first name refers to the second one. -/
def Refers (templates : List Template) (a b : String) : Prop :=
  ∃ template ∈ templates, template.name = a ∧ b ∈ template.references

/-- Templates that can be used together. -/
structure Acceptable (templates : List Template) : Prop where
  distinct : (templates.map (·.name)).Nodup
  known : ∀ a b, Refers templates a b → ∃ template ∈ templates, template.name = b
  acyclic : ∀ name, ¬ Relation.TransGen (Refers templates) name name

/-- Names each of which refers to the next one, until the first one comes up again. -/
structure Cycle (templates : List Template) (chain : List String) : Prop where
  two_le_length : 2 ≤ chain.length
  closed : chain.head? = chain.getLast?
  nodup : chain.dropLast.Nodup
  refers : chain.IsChain (Refers templates)

/-- Who goes round a closed chain comes back. -/
lemma exists_transGen_of_closed {R : String → String → Prop} (hlength : 2 ≤ chain.length)
    (closed : chain.head? = chain.getLast?) (leads : chain.IsChain R) :
    ∃ name ∈ chain, Relation.TransGen R name name := by
  match chain, hlength with
  | a :: b :: rest, _ =>
    rw [List.isChain_cons_cons] at leads
    have back := List.relationReflTransGen_of_exists_isChain_cons rest leads.2 rfl
    have last : (b :: rest).getLast (by simp) = a := by
      rw [List.head?_cons, List.getLast?_cons_cons, List.getLast?_eq_some_getLast (by simp)] at closed
      exact (Option.some.inj closed).symm
    exact ⟨a, List.mem_cons_self, .head' leads.1 (last ▸ back)⟩

end Template

open Template

/-- What the error says is true of the templates. -/
def QueryError.Blames (templates : List Template) : QueryError → Prop
  | .duplicateTemplate name => 2 ≤ (templates.map (·.name)).count name
  | .unknownTemplate name   =>
    (∃ a, Refers templates a name) ∧ ∀ template ∈ templates, template.name ≠ name
  | .cyclicReference chain  => Cycle templates chain
  | .arity ..               => False
  | .pattern _              => False

/-- There is nothing to blame acceptable templates for. -/
lemma Template.Acceptable.not_blames (h : Acceptable templates) (e : QueryError) :
    ¬ e.Blames templates := by
  cases e with
  | duplicateTemplate name =>
    have := List.nodup_iff_count_le_one.1 h.distinct name
    simp only [QueryError.Blames]
    omega
  | unknownTemplate name =>
    rintro ⟨⟨a, hrefers⟩, unknown⟩
    obtain ⟨template, hmem, hname⟩ := h.known a name hrefers
    exact unknown template hmem hname
  | cyclicReference chain =>
    intro cycle
    obtain ⟨name, _, back⟩ := exists_transGen_of_closed cycle.two_le_length cycle.closed cycle.refers
    exact h.acyclic name back
  | arity _ _ | pattern _ => exact id

namespace TemplateTable

variable {t : TemplateTable} {path done done' names order seen : List String} {e : QueryError}

/-! ### Accepted tables -/

lemma get?_eq_none : t.get? name = none ↔ ∀ template ∈ t.templates, template.name ≠ name := by
  simp [get?, List.find?_eq_none]

/-- What a name in order refers to is in order, behind it. -/
lemma Ordered.exists_behind (h : t.Ordered order) (distinct : (t.templates.map (·.name)).Nodup)
    (hname : name ∈ order) : ∃ later, t.Ordered later ∧ later ⊆ order ∧ name ∉ later ∧
      ∀ b, Refers t.templates name b → b ∈ later := by
  obtain ⟨template, later, found, hlater, fresh, ordered, hsub, _⟩ := h.exists_later hname
  refine ⟨later, ordered, hsub, fresh, ?_⟩
  rintro b ⟨other, hmem, rfl, href⟩
  obtain rfl := Option.some.inj (found.symm.trans (get?_of_mem distinct hmem))
  exact hlater b href

/-- No name in order leads back to itself: everything that it leads to is behind it. -/
lemma Ordered.acyclic (h : t.Ordered order) (distinct : (t.templates.map (·.name)).Nodup)
    (hname : name ∈ order) : ¬ Relation.TransGen (Refers t.templates) name name := by
  obtain ⟨later, ordered, _, fresh, hlater⟩ := h.exists_behind distinct hname
  have stays : ∀ {b}, Relation.TransGen (Refers t.templates) name b → b ∈ later := by
    intro b hb
    induction hb with
    | single hrefers => exact hlater _ hrefers
    | tail _ hrefers ih =>
      obtain ⟨_, _, hsub, _, hbehind⟩ := ordered.exists_behind distinct ih
      exact hsub (hbehind _ hrefers)
  exact fun back => fresh (stays back)

/-- The templates of an accepted table are acceptable. -/
lemma acceptable_of_check (distinct : (t.templates.map (·.name)).Nodup) (h : t.check = .ok ()) :
    Acceptable t.templates := by
  obtain ⟨order, ordered, hall⟩ := exists_ordered h
  have refers_mem : ∀ {a b}, Refers t.templates a b → a ∈ order := by
    rintro a b ⟨template, hmem, rfl, _⟩
    exact hall template hmem
  refine ⟨distinct, fun a b hrefers => ?_, fun name back => ?_⟩
  · obtain ⟨later, ordered', _, _, hlater⟩ := ordered.exists_behind distinct (refers_mem hrefers)
    obtain ⟨template, _, found, _⟩ := ordered'.exists_later (hlater b hrefers)
    exact ⟨template, mem_of_get? found, name_of_get? found⟩
  · obtain ⟨_, hrefers, _⟩ := Relation.TransGen.head'_iff.1 back
    exact ordered.acyclic distinct (refers_mem hrefers) back

/-! ### The search along a path -/

/-- A path on which every name refers to the next one, and at whose end names are referred to. -/
structure Way (t : TemplateTable) (path names : List String) : Prop where
  nodup : path.Nodup
  refers : ∀ name ∈ names, (path ++ [name]).IsChain (Refers t.templates)
  /-- A search begins with names of templates. -/
  known : path = [] → ∀ name ∈ names, t.get? name ≠ none

lemma Way.tail (h : t.Way path (name :: names)) : t.Way path names where
  nodup := h.nodup
  refers r hr := h.refers r (List.mem_cons_of_mem _ hr)
  known hpath r hr := h.known hpath r (List.mem_cons_of_mem _ hr)

/-- The way goes on to a template, and from there to what the template refers to. -/
lemma Way.enter (h : t.Way path (name :: names)) (hpath : name ∉ path)
    (found : t.get? name = some template) :
    t.Way (path ++ [name]) template.references.reverse where
  nodup := by simpa using h.nodup.concat hpath
  refers r hr := by
    have hname : Refers t.templates name r :=
      ⟨template, mem_of_get? found, name_of_get? found, List.mem_reverse.1 hr⟩
    refine List.isChain_append.2 ⟨h.refers name List.mem_cons_self, .singleton r, ?_⟩
    simpa using hname
  known hnil := by simp at hnil

/-- A name that comes up on its own path leads from itself back to itself, and to no other name twice. -/
lemma cycle_closes {R : String → String → Prop} (hpath : name ∈ path) (nodup : path.Nodup)
    (refers : (path ++ [name]).IsChain R) :
    2 ≤ (cycle path name).length ∧ (cycle path name).head? = (cycle path name).getLast? ∧
      (cycle path name).dropLast.Nodup ∧ (cycle path name).IsChain R := by
  obtain ⟨before, behind, rfl, hfirst⟩ := List.eq_append_cons_of_mem hpath
  have hcycle : cycle (before ++ name :: behind) name = name :: behind ++ [name] := by
    have hdrop : before.dropWhile (· != name) = [] := by
      refine List.dropWhile_eq_nil_iff.2 fun x hx => ?_
      rw [bne_iff_ne]
      rintro rfl
      exact hfirst hx
    rw [cycle, List.dropWhile_append, hdrop, List.isEmpty_nil, if_pos rfl,
      List.dropWhile_cons_of_neg (by simp)]
  rw [List.append_assoc] at refers
  rw [hcycle]
  refine ⟨by simp, by rw [List.getLast?_concat]; rfl, ?_, (List.isChain_append.1 refers).2.1⟩
  rw [List.dropLast_concat]
  exact nodup.sublist (List.sublist_append_right _ _)

/-- A name that comes up on its own path closes a cycle. -/
lemma Way.cycle (h : t.Way path (name :: names)) (hpath : name ∈ path) :
    Cycle t.templates (cycle path name) := by
  obtain ⟨two, closed, nodup, refers⟩ := cycle_closes hpath h.nodup (h.refers name List.mem_cons_self)
  exact ⟨two, closed, nodup, refers⟩

/-- A name without a template stands in some template. -/
lemma Way.unknown (h : t.Way path (name :: names)) (missing : t.get? name = none) :
    (QueryError.unknownTemplate name).Blames t.templates := by
  refine ⟨?_, get?_eq_none.1 missing⟩
  obtain rfl | ⟨front, last, rfl⟩ := List.eq_nil_or_concat' path
  · exact absurd missing (h.known rfl name List.mem_cons_self)
  · have refers := h.refers name List.mem_cons_self
    rw [List.append_assoc] at refers
    exact ⟨last, List.isChain_pair.1 (List.isChain_append.1 refers).2.1⟩

/-- If following references fails, the templates are to blame. -/
theorem follow_blames (h : t.follow path done names = .error e) (way : t.Way path names) :
    e.Blames t.templates := by
  induction path, done, names using follow.induct t with
  | case1 path done =>
    rw [follow] at h
    cases h
  | case2 path done name more hmem ih =>
    rw [follow, if_pos hmem] at h
    exact ih h way.tail
  | case3 path done name more hmem hpath =>
    rw [follow, if_neg hmem, dif_pos hpath] at h
    cases h
    exact way.cycle hpath
  | case4 path done name more hmem hpath missing =>
    rw [follow, if_neg hmem, dif_neg hpath] at h
    split at h
    · cases h
      exact way.unknown missing
    · simp_all
  | case5 path done name more hmem hpath template found hlt e' inner ih =>
    rw [follow_enter (by simpa using hmem) hpath found, inner] at h
    cases h
    exact ih inner (way.enter hpath found)
  | case6 path done name more hmem hpath template found hlt done₁ inner ih ih' =>
    rw [follow_enter (by simpa using hmem) hpath found, inner] at h
    exact ih' h way.tail

/-- If the check of a table fails, its templates are to blame. -/
lemma check_blames (h : t.check = .error e) : e.Blames t.templates := by
  cases hfollow : t.follow [] [] t.names with
  | ok done =>
    rw [check, hfollow] at h
    cases h
  | error e' =>
    rw [check, hfollow] at h
    cases h
    refine follow_blames hfollow ⟨List.nodup_nil, fun name _ => .singleton name, fun _ name hname => ?_⟩
    obtain ⟨template, hmem, hname⟩ := mem_names.1 hname
    exact fun missing => get?_eq_none.1 missing template hmem hname

/-! ### Accepted lists -/

lemma two_le_count_of_firstRepeated? (h : firstRepeated? seen names = some name) :
    name ∈ seen ∧ name ∈ names ∨ 2 ≤ names.count name := by
  induction names generalizing seen with
  | nil => cases h
  | cons first names ih =>
    rw [firstRepeated?] at h
    split at h
    · next hmem =>
      cases h
      exact .inl ⟨List.contains_iff_mem.1 hmem, List.mem_cons_self⟩
    · -- repeated later on: after a name from before, after this one, or twice in the rest
      rcases ih h with ⟨hseen, hname⟩ | hcount
      · rcases List.mem_cons.1 hseen with rfl | hseen
        · have := List.count_pos_iff.2 hname
          exact .inr (by rw [List.count_cons_self]; omega)
        · exact .inl ⟨hseen, List.mem_cons_of_mem _ hname⟩
      · exact .inr (hcount.trans (List.count_le_count_cons ..))

lemma ofTemplates_blames (h : ofTemplates templates = .error e) : e.Blames templates := by
  unfold ofTemplates at h
  split at h
  · next name hrepeated =>
    cases h
    exact (two_le_count_of_firstRepeated? hrepeated).resolve_left fun h => List.not_mem_nil h.1
  · cases hcheck : check ⟨templates⟩ with
    | ok u =>
      rw [hcheck] at h
      cases h
    | error e' =>
      rw [hcheck] at h
      cases h
      exact check_blames hcheck

/-- Templates are accepted exactly if their names are distinct and all references lead to templates of the
list and none of them back. Otherwise the error tells the truth about them. -/
theorem accepted_iff (templates : List Template) :
    ((∃ t, ofTemplates templates = .ok t) ↔ Acceptable templates) ∧
      ∀ e, ofTemplates templates = .error e → e.Blames templates := by
  refine ⟨⟨?_, fun acceptable => ?_⟩, fun e => ofTemplates_blames⟩
  · rintro ⟨t, h⟩
    obtain ⟨rfl, distinct, hcheck⟩ := ofTemplates_eq_ok.1 h
    exact acceptable_of_check distinct hcheck
  · cases h : ofTemplates templates with
    | ok t => exact ⟨t, rfl⟩
    | error e => exact absurd (ofTemplates_blames h) (acceptable.not_blames e)

end TemplateTable

/-- A template that only refers to others. -/
def Template.referring (name : String) (names : List String) : Template :=
  ⟨name, names.map (.reference · .one), .one, false, none, none⟩

/-- Three names that refer to each other in turn. -/
def Template.round : List Template :=
  [.referring "a" ["b"], .referring "b" ["c"], .referring "c" ["a"]]

/-- What is referred to in two ways is no cycle yet; a round is one. -/
theorem diamond_accepted_round_rejected :
    Acceptable [.referring "top" ["left", "right"], .referring "left" ["leaf"],
      .referring "right" ["leaf"], .referring "leaf" []] ∧
    TemplateTable.ofTemplates Template.round = .error (.cyclicReference ["a", "b", "c", "a"]) ∧
    Cycle Template.round ["a", "b", "c", "a"] := by
  have rejected : TemplateTable.ofTemplates Template.round
      = .error (.cyclicReference ["a", "b", "c", "a"]) := by cbv
  refine ⟨(TemplateTable.accepted_iff _).1.1 ⟨_, by cbv⟩, rejected, ?_⟩
  exact (TemplateTable.accepted_iff _).2 _ rejected

end Daybook
