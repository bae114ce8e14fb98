import Daybook.Proofs.Outcome
import Daybook.Template.Resolution

/-!
# Passes of a resolution

A resolution takes up items pass by pass, with a stack of the templates that it is in. Read as a whole, a list
of items comes to its leaves (`TemplateTable.expand`): those of a reference are what the items of its template
come to. The passes from a template on come to the leaves of its items, and go on with the templates around it
(`TemplateTable.run_cons`).

Whatever the table, the passes come to an end, see `TemplateTable.exists_endsAfter`.
-/

namespace Daybook

namespace TemplateTable

variable {A : Arithmetic} {t : TemplateTable} {template : Template} {path : List String} {scale : Decimal}
  {range? : Option DateRange} {items : List TemplateItem} {frames outer : List Frame}
  {leaves : Array ResolvedLeaf}

/-! ### Items as a whole -/

/-- The leaves of a list of items, under a coefficient, a range and the path of templates around them. -/
def expand (A : Arithmetic) (t : TemplateTable) (path : List String) (scale : Decimal)
    (range? : Option DateRange) : List TemplateItem → Except (Fault QueryError) (List ResolvedLeaf)
  | [] => .ok []
  | .query tree :: items => do
    let more ← t.expand A path scale range? items
    return ⟨tree, scale, range?, path⟩ :: more
  | .reference name coefficient :: items =>
    if hp : name ∈ path then .error (.error (.cyclicReference (cycle path name)))
    else match h : t.get? name with
      | none          => .error (.error (.unknownTemplate name))
      | some template => do
        have := unvisited_lt h hp
        let inner ← A.mul scale coefficient
        let inner ← A.mul inner template.coefficient
        let leaves ←
          t.expand A (path ++ [name]) inner (template.effectiveRange range?) template.items
        let more ← t.expand A path scale range? items
        return leaves ++ more
termination_by items => ((t.unvisited path).length, items.length)

lemma expand_reference {name : String} {coefficient : Decimal} (hpath : name ∉ path)
    (found : t.get? name = some template) :
    t.expand A path scale range? (.reference name coefficient :: items)
      = liftOverflow (A.mul scale coefficient >>= (A.mul · template.coefficient)) >>= fun inner => do
          let leaves ←
            t.expand A (path ++ [name]) inner (template.effectiveRange range?) template.items
          let more ← t.expand A path scale range? items
          return leaves ++ more := by
  rw [expand, dif_neg hpath]
  split
  · simp_all
  · next other hother =>
    obtain rfl : other = template := Option.some.inj (hother.symm.trans found)
    cases A.mul scale coefficient <;> rfl

lemma expand_unknown {name : String} {coefficient : Decimal} (hpath : name ∉ path)
    (missing : t.get? name = none) :
    t.expand A path scale range? (.reference name coefficient :: items)
      = .error (.error (.unknownTemplate name)) := by
  rw [expand, dif_neg hpath]
  split
  · rfl
  · simp_all

/-! ### Items pass by pass -/

lemma run_cons_of_pass {frame : Frame} {r : Resolution} (h : t.pass A frame outer leaves = .ok r) :
    t.run A (frame :: outer) leaves = t.run A r.frames r.leaves := by
  rw [run]
  split
  · simp_all
  · simp_all

lemma run_cons_of_error {frame : Frame} {e : Fault QueryError}
    (h : t.pass A frame outer leaves = .error e) : t.run A (frame :: outer) leaves = .error e := by
  rw [run]
  split
  · simp_all
  · simp_all

/-- From a template on, a resolution comes to the leaves of its items, and then to those of the templates
around it. -/
lemma run_cons {name : String} (outer : List Frame) (leaves : Array ResolvedLeaf)
    (hpath : Resolution.path outer ++ [name] = path) :
    t.run A (⟨name, items, scale, range?⟩ :: outer) leaves
      = t.expand A path scale range? items >>= fun found => t.run A outer (leaves ++ found.toArray) := by
  induction path, scale, range?, items using expand.induct t generalizing name outer leaves with
  | case1 path scale range? =>
    -- nothing is left of these items, so the templates around them go on
    rw [expand, run_cons_of_pass (r := ⟨outer, leaves⟩) rfl]
    simp
  | case2 path scale range? tree items ih =>
    have step : t.pass A ⟨name, .query tree :: items, scale, range?⟩ outer leaves
        = .ok ⟨⟨name, items, scale, range?⟩ :: outer, leaves.push ⟨tree, scale, range?, path⟩⟩ := by
      simp [pass, hpath]
    rw [run_cons_of_pass step, ih outer _ hpath, expand]
    cases t.expand A path scale range? items with
    | error e => rfl
    | ok more => simp
  | case3 path scale range? target coefficient items hin =>
    rw [expand, dif_pos hin, run_cons_of_error]
    · rfl
    · simp [pass, hpath, hin]
  | case4 path scale range? target coefficient items hin missing =>
    rw [expand_unknown hin missing, run_cons_of_error]
    · rfl
    · simp [pass, hpath, hin, missing]
  | case5 path scale range? target coefficient items hin template found _ ihBody ihRest =>
    -- the pass puts the items of the template in front of the rest of these
    have fresh : target ∉
        Resolution.path (⟨name, .reference target coefficient :: items, scale, range?⟩ :: outer) := by
      rwa [Resolution.path_cons, hpath]
    have step : t.pass A ⟨name, .reference target coefficient :: items, scale, range?⟩ outer leaves = _ :=
      pass_reference rfl fresh found
    rw [expand_reference hin found]
    cases product : A.mul scale coefficient >>= (A.mul · template.coefficient) with
    | error o =>
      simp only [product] at step
      rw [run_cons_of_error step]
      rfl
    | ok inner =>
      simp only [product] at step
      have around : Resolution.path (⟨name, items, scale, range?⟩ :: outer) ++ [template.name]
          = path ++ [target] := by
        rw [Resolution.path_cons, hpath, name_of_get? found]
      rw [run_cons_of_pass step]
      dsimp only [Template.frame]
      rw [ihBody inner _ leaves around, liftOverflow_ok, ok_bind]
      cases t.expand A (path ++ [target]) inner (template.effectiveRange range?) template.items with
      | error e => rfl
      | ok body =>
        rw [ok_bind, ok_bind, ihRest outer _ hpath]
        cases t.expand A path scale range? items with
        | error e => rfl
        | ok more => simp

lemma resolve_of_get? {name : String} (found : t.get? name = some template) (coefficient : Decimal)
    (inherited? : Option DateRange) : t.resolve A name coefficient inherited?
      = liftOverflow (A.mul coefficient template.coefficient) >>= fun scale => do
          let leaves ← t.expand A [name] scale (template.effectiveRange inherited?) template.items
          return ⟨leaves⟩ := by
  have outermost : Resolution.path [] ++ [template.name] = [name] := by simp [name_of_get? found]
  rw [resolve, found]
  dsimp only [Template.frame]
  cases A.mul coefficient template.coefficient with
  | error o => rfl
  | ok scale =>
    show (do return ResolvedQuery.mk (← t.run A [_] #[])) = _
    rw [run_cons [] #[] outermost]
    rw [liftOverflow_ok, ok_bind]
    cases t.expand A [name] scale (template.effectiveRange inherited?) template.items with
    | error e => rfl
    | ok found => simp [run]

/-! ### The end of a resolution -/

/-- The resolution ends with an outcome after a number of passes. -/
inductive EndsAfter (A : Arithmetic) (t : TemplateTable) :
    ℕ → List Frame → Array ResolvedLeaf → Except (Fault QueryError) (List ResolvedLeaf) → Prop
  | done {leaves : Array ResolvedLeaf} : EndsAfter A t 0 [] leaves (.ok leaves.toList)
  | failed {frame : Frame} {outer : List Frame} {leaves : Array ResolvedLeaf} {e : Fault QueryError}
      (h : t.pass A frame outer leaves = .error e) :
      EndsAfter A t 1 (frame :: outer) leaves (.error e)
  | pass {n : ℕ} {frame : Frame} {outer : List Frame} {leaves : Array ResolvedLeaf} {r : Resolution}
      {out : Except (Fault QueryError) (List ResolvedLeaf)}
      (h : t.pass A frame outer leaves = .ok r) (rest : EndsAfter A t n r.frames r.leaves out) :
      EndsAfter A t (n + 1) (frame :: outer) leaves out

/-- Every resolution ends, on any table and from any stack, within the passes that are left to it. -/
theorem exists_endsAfter (A : Arithmetic) (t : TemplateTable) (frames : List Frame)
    (leaves : Array ResolvedLeaf) :
    ∃ n ≤ t.passesLeft frames, t.EndsAfter A n frames leaves (t.run A frames leaves) := by
  induction frames, leaves using run.induct A t with
  | case1 leaves =>
    rw [run]
    exact ⟨0, Nat.le_refl 0, .done⟩
  | case2 leaves frame outer e h =>
    rw [run_cons_of_error h]
    exact ⟨1, by rw [passesLeft]; omega, .failed h⟩
  | case3 leaves frame outer r h hlt ih =>
    obtain ⟨n, hn, ends⟩ := ih
    rw [run_cons_of_pass h]
    exact ⟨n + 1, by omega, .pass h ends⟩

end TemplateTable

end Daybook
