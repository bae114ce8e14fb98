import Daybook.Proofs.Template.Cycle
import Daybook.Proofs.Template.Passes

/-!
# Resolution on tables that were never checked

On a table that was never checked, references may lead nowhere or back to where they came from. A resolution
ends all the same. Unless a product of coefficients overflows, it succeeds exactly if neither can be reached
from the name (`TemplateTable.SoundFrom`), and if it fails, the error names what was reached
(`QueryError.BlamesFrom`). See `TemplateTable.resolve_ends`.

While it goes on, the names of the templates that a resolution is in are distinct, and each one refers to the
next (`TemplateTable.Trail`).
-/

namespace Daybook

variable {A : Arithmetic} {t : TemplateTable} {template : Template} {root name : String}
  {path : List String} {coefficient scale : Decimal} {inherited? range? : Option DateRange}
  {item : TemplateItem} {items : List TemplateItem} {leaves : List ResolvedLeaf} {e : QueryError}
  {o : Overflow}

namespace TemplateTable

/-! ### References -/

/-- The template that the first name finds refers to the second one. -/
def Refers (t : TemplateTable) (a b : String) : Prop :=
  ∃ template, t.get? a = some template ∧ b ∈ template.references

/-- References lead from the first name to the second one, or they are the same. -/
def Reaches (t : TemplateTable) : String → String → Prop := Relation.ReflTransGen t.Refers

/-- All names that can be reached find a template, and none of them leads back to itself. -/
structure SoundFrom (t : TemplateTable) (root : String) : Prop where
  known : ∀ name, t.Reaches root name → t.get? name ≠ none
  acyclic : ∀ name, t.Reaches root name → ¬ Relation.TransGen t.Refers name name

/-- Names that can be reached, each of which refers to the next one, until the first one comes up again. -/
structure CycleFrom (t : TemplateTable) (root : String) (chain : List String) : Prop where
  two_le_length : 2 ≤ chain.length
  closed : chain.head? = chain.getLast?
  nodup : chain.dropLast.Nodup
  refers : chain.IsChain t.Refers
  reached : ∀ name ∈ chain, t.Reaches root name

lemma refers_iff (found : t.get? name = some template) {r : String} :
    t.Refers name r ↔ ∃ item ∈ template.items, item.target? = some r := by
  rw [← List.mem_filterMap]
  constructor
  · rintro ⟨other, hother, hr⟩
    obtain rfl := Option.some.inj (found.symm.trans hother)
    exact hr
  · exact fun hr => ⟨template, found, hr⟩

/-- Who goes round a cycle comes back. -/
lemma CycleFrom.not_soundFrom {chain : List String} (h : t.CycleFrom root chain) :
    ¬ t.SoundFrom root := by
  obtain ⟨name, hmem, back⟩ := Template.exists_transGen_of_closed h.two_le_length h.closed h.refers
  exact fun sound => sound.acyclic name (h.reached name hmem) back

end TemplateTable

/-- What the error says is true of the names that can be reached. -/
def QueryError.BlamesFrom (t : TemplateTable) (root : String) : QueryError → Prop
  | .unknownTemplate name   => t.Reaches root name ∧ t.get? name = none
  | .cyclicReference chain  => t.CycleFrom root chain
  | .duplicateTemplate _    => False
  | .arity ..               => False
  | .pattern _              => False

lemma QueryError.BlamesFrom.not_soundFrom (h : e.BlamesFrom t root) : ¬ t.SoundFrom root := by
  cases e with
  | unknownTemplate name => exact fun sound => sound.known name h.1 h.2
  | cyclicReference chain => exact TemplateTable.CycleFrom.not_soundFrom h
  | duplicateTemplate _ | arity _ _ | pattern _ => exact h.elim

namespace TemplateTable

/-! ### Errors -/

/-- A path of distinct names from the root, each of which refers to the next one, and at whose end items refer
on. -/
structure Trail (t : TemplateTable) (root : String) (path : List String) (items : List TemplateItem) :
    Prop where
  nodup : path.Nodup
  reached : ∀ name ∈ path, t.Reaches root name
  refers : ∀ item ∈ items, ∀ r, item.target? = some r → (path ++ [r]).IsChain t.Refers
  leads : ∀ item ∈ items, ∀ r, item.target? = some r → t.Reaches root r

lemma Trail.tail (h : t.Trail root path (item :: items)) : t.Trail root path items where
  nodup := h.nodup
  reached := h.reached
  refers item hitem := h.refers item (List.mem_cons_of_mem _ hitem)
  leads item hitem := h.leads item (List.mem_cons_of_mem _ hitem)

/-- The trail goes on to a template that it has not come to yet. -/
lemma Trail.enter {factor : Decimal} (h : t.Trail root path (.reference name factor :: items))
    (fresh : name ∉ path) (found : t.get? name = some template) :
    t.Trail root (path ++ [name]) template.items where
  nodup := by simpa using h.nodup.concat fresh
  reached r hr := by
    rcases List.mem_append.1 hr with hr | hr
    · exact h.reached r hr
    · obtain rfl := List.mem_singleton.1 hr
      exact h.leads _ List.mem_cons_self _ rfl
  refers item hitem r hr := by
    refine List.isChain_append.2 ⟨h.refers _ List.mem_cons_self _ rfl, .singleton r, ?_⟩
    simpa using (refers_iff found).2 ⟨item, hitem, hr⟩
  leads item hitem r hr :=
    (h.leads _ List.mem_cons_self _ rfl).tail ((refers_iff found).2 ⟨item, hitem, hr⟩)

/-- A trail begins with the template of the root. -/
lemma Trail.start (found : t.get? root = some template) : t.Trail root [root] template.items where
  nodup := List.nodup_singleton root
  reached r hr := by
    obtain rfl := List.mem_singleton.1 hr
    exact .refl
  refers item hitem r hr := List.isChain_pair.2 ((refers_iff found).2 ⟨item, hitem, hr⟩)
  leads item hitem r hr := .single ((refers_iff found).2 ⟨item, hitem, hr⟩)

/-- A name that comes up on its own trail closes a cycle. -/
lemma Trail.cycle {factor : Decimal} (h : t.Trail root path (.reference name factor :: items))
    (hpath : name ∈ path) : t.CycleFrom root (cycle path name) := by
  obtain ⟨two, closed, nodup, refers⟩ :=
    cycle_closes hpath h.nodup (h.refers _ List.mem_cons_self _ rfl)
  refine ⟨two, closed, nodup, refers, fun r hr => h.reached r ?_⟩
  rcases List.mem_append.1 hr with hr | hr
  · exact (List.dropWhile_sublist _).subset hr
  · rwa [List.mem_singleton.1 hr]

/-- If items cannot be expanded, what they lead to is to blame. -/
lemma expand_blames (h : t.expand A path scale range? items = .error (.error e))
    (trail : t.Trail root path items) : e.BlamesFrom t root := by
  induction path, scale, range?, items using expand.induct t with
  | case1 path scale range? =>
    rw [expand] at h
    cases h
  | case2 path scale range? tree items ih =>
    rw [expand] at h
    rcases bind_eq_error.1 h with h | ⟨more, _, h⟩
    · exact ih h trail.tail
    · cases h
  | case3 path scale range? name factor items hin =>
    -- the name is on its own trail
    rw [expand, dif_pos hin] at h
    cases h
    exact trail.cycle hin
  | case4 path scale range? name factor items hin missing =>
    -- the name is reached, and there is nothing
    rw [expand_unknown hin missing] at h
    cases h
    exact ⟨trail.leads _ List.mem_cons_self _ rfl, missing⟩
  | case5 path scale range? name factor items hin template found _ ihBody ihRest =>
    -- a product, the template inside or the items behind it
    rw [expand_reference hin found] at h
    rcases bind_eq_error.1 h with h | ⟨inner, _, h⟩
    · obtain ⟨o, _, overflow⟩ := liftOverflow_eq_error.1 h
      cases overflow
    · rcases bind_eq_error.1 h with h | ⟨body, _, h⟩
      · exact ihBody inner h (trail.enter hin found)
      · rcases bind_eq_error.1 h with h | ⟨more, _, h⟩
        · exact ihRest h trail.tail
        · cases h

/-! ### Overflows -/

/-- References lead from the root to a template along distinct names, and the coefficients on the way come to a
product. -/
inductive Scaled (A : Arithmetic) (t : TemplateTable) (root : String) (coefficient : Decimal) :
    List String → Template → Decimal → Prop
  | root {template : Template} {scale : Decimal} (found : t.get? root = some template)
      (product : A.mul coefficient template.coefficient = .ok scale) :
      Scaled A t root coefficient [root] template scale
  | reference {path : List String} {outer template : Template} {scale factor inner : Decimal}
      {name : String} (around : Scaled A t root coefficient path outer scale)
      (item : .reference name factor ∈ outer.items) (fresh : name ∉ path)
      (found : t.get? name = some template)
      (product : A.mul scale factor >>= (A.mul · template.coefficient) = .ok inner) :
      Scaled A t root coefficient (path ++ [name]) template inner

/-- A product of coefficients overflows, that of the root or one at the end of references from it. -/
inductive Overflows (A : Arithmetic) (t : TemplateTable) (root : String) (coefficient : Decimal)
    (o : Overflow) : Prop
  | root {template : Template} (found : t.get? root = some template)
      (product : A.mul coefficient template.coefficient = .error o)
  | reference {path : List String} {outer template : Template} {scale factor : Decimal} {name : String}
      (around : Scaled A t root coefficient path outer scale)
      (item : .reference name factor ∈ outer.items) (fresh : name ∉ path)
      (found : t.get? name = some template)
      (product : A.mul scale factor >>= (A.mul · template.coefficient) = .error o)

/-- If the expansion of items of a template overflows, so does a product of coefficients. -/
lemma expand_overflows {outer : Template}
    (h : t.expand A path scale range? items = .error (.overflow o))
    (around : t.Scaled A root coefficient path outer scale) (inside : items ⊆ outer.items) :
    t.Overflows A root coefficient o := by
  induction path, scale, range?, items using expand.induct t generalizing outer with
  | case1 path scale range? =>
    rw [expand] at h
    cases h
  | case2 path scale range? tree items ih =>
    rw [expand] at h
    rcases bind_eq_error.1 h with h | ⟨more, _, h⟩
    · exact ih h around (List.cons_subset.1 inside).2
    · cases h
  | case3 path scale range? name factor items hin =>
    rw [expand, dif_pos hin] at h
    cases h
  | case4 path scale range? name factor items hin missing =>
    rw [expand_unknown hin missing] at h
    cases h
  | case5 path scale range? name factor items hin template found _ ihBody ihRest =>
    -- the product for the template, one inside of it or one behind it
    obtain ⟨item, inside⟩ := List.cons_subset.1 inside
    rw [expand_reference hin found] at h
    rcases bind_eq_error.1 h with h | ⟨inner, product, h⟩
    · exact .reference around item hin found (liftOverflow_eq_overflow.1 h)
    · rcases bind_eq_error.1 h with h | ⟨body, _, h⟩
      · have entered := around.reference item hin found (liftOverflow_eq_ok.1 product)
        exact ihBody inner h entered (List.Subset.refl _)
      · rcases bind_eq_error.1 h with h | ⟨more, _, h⟩
        · exact ihRest h around inside
        · cases h

/-! ### Results -/

/-- Names that can be reached find templates, do not lead back to themselves and are not on a path. -/
structure SoundBeside (t : TemplateTable) (path : List String) (root : String) : Prop
    extends t.SoundFrom root where
  fresh : ∀ name, t.Reaches root name → name ∉ path

/-- A template does not lead back to itself if what it refers to does not lead to it. -/
lemma SoundBeside.of_refers (found : t.get? name = some template) (hpath : name ∉ path)
    (behind : ∀ b, t.Refers name b → t.SoundBeside (path ++ [name]) b) : t.SoundBeside path name where
  known r hr := by
    rcases hr.cases_head with rfl | ⟨b, hb, hr⟩
    · simp [found]
    · exact (behind b hb).known r hr
  acyclic r hr := by
    rcases hr.cases_head with rfl | ⟨b, hb, hr⟩
    · -- on the way back the name would be met behind what it refers to, where it is on the path
      intro back
      obtain ⟨b, hb, back⟩ := Relation.TransGen.head'_iff.1 back
      exact (behind b hb).fresh name back (by simp)
    · exact (behind b hb).acyclic r hr
  fresh r hr := by
    rcases hr.cases_head with rfl | ⟨b, hb, hr⟩
    · exact hpath
    · exact fun hmem => (behind b hb).fresh r hr (List.mem_append_left _ hmem)

/-- If items can be expanded, nothing that they lead to is unknown, on the path or part of a cycle. -/
lemma expand_sound (h : t.expand A path scale range? items = .ok leaves) (hitem : item ∈ items)
    (htarget : item.target? = some name) : t.SoundBeside path name := by
  induction path, scale, range?, items using expand.induct t generalizing leaves item name with
  | case1 path scale range? => cases hitem
  | case2 path scale range? tree items ih =>
    rw [expand] at h
    obtain ⟨more, hmore, _⟩ := bind_eq_ok.1 h
    rcases List.mem_cons.1 hitem with rfl | hitem
    · cases htarget
    · exact ih hmore hitem htarget
  | case3 path scale range? target factor items hin =>
    rw [expand, dif_pos hin] at h
    cases h
  | case4 path scale range? target factor items hin missing =>
    rw [expand_unknown hin missing] at h
    cases h
  | case5 path scale range? target factor items hin template found _ ihBody ihRest =>
    rw [expand_reference hin found] at h
    obtain ⟨inner, _, h⟩ := bind_eq_ok.1 h
    obtain ⟨body, hbody, h⟩ := bind_eq_ok.1 h
    obtain ⟨more, hmore, _⟩ := bind_eq_ok.1 h
    rcases List.mem_cons.1 hitem with rfl | hitem
    · -- the items of the template were expanded, with its name on the path
      obtain rfl := Option.some.inj htarget
      refine .of_refers found hin fun b hb => ?_
      obtain ⟨item, hitem, htarget⟩ := (refers_iff found).1 hb
      exact ihBody inner hbody hitem htarget
    · exact ihRest hmore hitem htarget

/-! ### Resolutions -/

/-- Whatever can be reached from a name that is resolved is sound. -/
lemma resolve_sound {q : ResolvedQuery} (h : t.resolve A root coefficient inherited? = .ok q) :
    t.SoundFrom root := by
  cases found : t.get? root with
  | none =>
    rw [resolve, found] at h
    cases h
  | some template =>
    rw [resolve_of_get? found] at h
    obtain ⟨scale, _, h⟩ := bind_eq_ok.1 h
    obtain ⟨leaves, hleaves, _⟩ := bind_eq_ok.1 h
    suffices beside : t.SoundBeside [] root from beside.toSoundFrom
    refine .of_refers found List.not_mem_nil fun b hb => ?_
    obtain ⟨item, hitem, htarget⟩ := (refers_iff found).1 hb
    exact expand_sound hleaves hitem htarget

lemma resolve_blames (h : t.resolve A root coefficient inherited? = .error (.error e)) :
    e.BlamesFrom t root := by
  cases found : t.get? root with
  | none =>
    rw [resolve, found] at h
    cases h
    exact ⟨.refl, found⟩
  | some template =>
    rw [resolve_of_get? found] at h
    rcases bind_eq_error.1 h with h | ⟨scale, _, h⟩
    · obtain ⟨o, _, overflow⟩ := liftOverflow_eq_error.1 h
      cases overflow
    · rcases bind_eq_error.1 h with h | ⟨leaves, _, h⟩
      · exact expand_blames h (.start found)
      · cases h

lemma resolve_overflows (h : t.resolve A root coefficient inherited? = .error (.overflow o)) :
    t.Overflows A root coefficient o := by
  cases found : t.get? root with
  | none =>
    rw [resolve, found] at h
    cases h
  | some template =>
    rw [resolve_of_get? found] at h
    rcases bind_eq_error.1 h with h | ⟨scale, product, h⟩
    · exact .root found (liftOverflow_eq_overflow.1 h)
    · rcases bind_eq_error.1 h with h | ⟨leaves, _, h⟩
      · exact expand_overflows h (.root found (liftOverflow_eq_ok.1 product)) (List.Subset.refl _)
      · cases h

/-- Resolution ends on every table, after a bounded number of passes. If no product of coefficients overflows,
it succeeds exactly if all names that can be reached find templates and none of them leads back to itself. If
it fails, a product of coefficients does overflow, or the error names a missing template or a cycle that can
be reached. -/
theorem resolve_ends (A : Arithmetic) (t : TemplateTable) (root : String) (coefficient : Decimal)
    (inherited? : Option DateRange) :
    (∀ template scale, t.get? root = some template →
      A.mul coefficient template.coefficient = .ok scale →
        ∃ n ≤ t.passesLeft [template.frame scale inherited?], ∃ out,
          t.EndsAfter A n [template.frame scale inherited?] #[] out ∧
            t.resolve A root coefficient inherited? = ResolvedQuery.mk <$> out) ∧
    ((∀ o, t.resolve A root coefficient inherited? ≠ .error (.overflow o)) →
      ((∃ q, t.resolve A root coefficient inherited? = .ok q) ↔ t.SoundFrom root)) ∧
    (∀ o, t.resolve A root coefficient inherited? = .error (.overflow o) →
      t.Overflows A root coefficient o) ∧
    ∀ e, t.resolve A root coefficient inherited? = .error (.error e) → e.BlamesFrom t root := by
  refine ⟨fun template scale found product => ?_, fun exact => ⟨?_, fun sound => ?_⟩,
    fun o => resolve_overflows, fun e => resolve_blames⟩
  · obtain ⟨n, hn, ends⟩ := exists_endsAfter A t [template.frame scale inherited?] #[]
    refine ⟨n, hn, _, ends, ?_⟩
    rw [resolve, found]
    dsimp only
    rw [product]
    rfl
  · rintro ⟨q, h⟩
    exact resolve_sound h
  · cases h : t.resolve A root coefficient inherited? with
    | ok q => exact ⟨q, rfl⟩
    | error fault =>
      cases fault with
      | overflow o => exact absurd h (exact o)
      | error e => exact absurd sound (resolve_blames h).not_soundFrom

/-- Names that refer to each other, one that refers to nothing that is there, and one that is sound. -/
def unchecked : TemplateTable :=
  ⟨[.referring "x" ["y"], .referring "y" ["x"], .referring "z" ["gone"], .referring "top" ["leaf"],
    .referring "leaf" []]⟩

/-- What is wrong in a table shows where it can be reached, and only there. -/
theorem unchecked_resolved :
    unchecked.resolve .rounding "x" .one none = .error (.error (.cyclicReference ["x", "y", "x"])) ∧
    unchecked.CycleFrom "x" ["x", "y", "x"] ∧
    unchecked.resolve .rounding "z" .one none = .error (.error (.unknownTemplate "gone")) ∧
    unchecked.Reaches "z" "gone" ∧
    unchecked.resolve .rounding "top" .one none = .ok ⟨[]⟩ ∧
    unchecked.SoundFrom "top" := by
  have once : Arithmetic.rounding.mul .one .one = .ok .one := by decide +kernel
  have x : unchecked.get? "x" = some (.referring "x" ["y"]) := rfl
  have y : unchecked.get? "y" = some (.referring "y" ["x"]) := rfl
  have z : unchecked.get? "z" = some (.referring "z" ["gone"]) := rfl
  have gone : unchecked.get? "gone" = none := rfl
  have top : unchecked.get? "top" = some (.referring "top" ["leaf"]) := rfl
  have leaf : unchecked.get? "leaf" = some (.referring "leaf" []) := rfl
  have cyclic : unchecked.resolve .rounding "x" .one none
      = .error (.error (.cyclicReference ["x", "y", "x"])) := by
    simp [resolve_of_get? x, Template.referring, expand_reference _ y, expand, cycle, once]
  have missing : unchecked.resolve .rounding "z" .one none
      = .error (.error (.unknownTemplate "gone")) := by
    simp [resolve_of_get? z, Template.referring, expand_unknown _ gone, once]
  have sound : unchecked.resolve .rounding "top" .one none = .ok ⟨[]⟩ := by
    simp [resolve_of_get? top, Template.referring, expand_reference _ leaf, expand, once]
  obtain ⟨_, _, _, blamesX⟩ := resolve_ends .rounding unchecked "x" .one none
  obtain ⟨_, _, _, blamesZ⟩ := resolve_ends .rounding unchecked "z" .one none
  obtain ⟨_, soundTop, _, _⟩ := resolve_ends .rounding unchecked "top" .one none
  refine ⟨cyclic, blamesX _ cyclic, missing, (blamesZ _ missing).1, sound, ?_⟩
  exact (soundTop fun _ => ne_error_of_eq_ok sound _).1 ⟨_, sound⟩

end TemplateTable

end Daybook
