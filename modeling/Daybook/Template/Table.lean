import Daybook.Template.Basic

/-!
# Tables of templates

A `TemplateTable` finds templates by name. `TemplateTable.ofTemplates` accepts a list of templates if
their names are distinct and their references lead to templates and never back to where they came from.

References are followed depth first from each name in alphabetical order, the last reference of a body
first. The search carries the path it is on and the names that it has finished.
-/

namespace Daybook

/-- Templates by name. -/
structure TemplateTable where
  templates : List Template

namespace TemplateTable

def empty : TemplateTable := ⟨[]⟩

def get? (t : TemplateTable) (name : String) : Option Template :=
  t.templates.find? (·.name == name)

/-- The names of the templates, in alphabetical order. -/
def names (t : TemplateTable) : List String :=
  (t.templates.map (·.name)).mergeSort fun a b => decide (a ≤ b)

def size (t : TemplateTable) : Nat := t.templates.length

def isEmpty (t : TemplateTable) : Bool := t.templates.isEmpty

/-! ### Paths through the table -/

/-- The templates whose names are not on a path: what a search can still enter. -/
def unvisited (t : TemplateTable) (path : List String) : List Template :=
  t.templates.filter fun template => !path.contains template.name

theorem name_of_get? {t : TemplateTable} {name : String} {template : Template}
    (h : t.get? name = some template) : template.name = name := by
  simpa using List.find?_some h

theorem mem_of_get? {t : TemplateTable} {name : String} {template : Template}
    (h : t.get? name = some template) : template ∈ t.templates :=
  List.mem_of_find?_eq_some h

/-- Entering a template leaves fewer to enter. -/
theorem unvisited_lt {t : TemplateTable} {path : List String} {name : String} {template : Template}
    (h : t.get? name = some template) (hp : name ∉ path) :
    (t.unvisited (path ++ [name])).length < (t.unvisited path).length := by
  have sub : t.unvisited (path ++ [name])
      = (t.unvisited path).filter fun x => x.name != name := by
    simp only [unvisited, List.filter_filter]
    congr 1
    funext x
    by_cases hx : x.name = name <;> simp [hx]
  rw [sub]
  refine List.length_filter_lt_length_iff_exists.2 ⟨template, ?_, ?_⟩
  · exact List.mem_filter.2 ⟨mem_of_get? h, by simp [name_of_get? h, hp]⟩
  · simp [name_of_get? h]

/-- The cycle on a path that a name closes: the part of the path from the name on, and the name. -/
def cycle (path : List String) (name : String) : List String :=
  path.dropWhile (· != name) ++ [name]

/-! ### Acceptance -/

/-- Follow references from the end of a path, and return the names finished by then. -/
def follow (t : TemplateTable) (path done : List String) :
    List String → Except QueryError (List String)
  | [] => .ok done
  | name :: more =>
    if done.contains name then t.follow path done more
    else if hp : name ∈ path then .error (.cyclicReference (cycle path name))
    else match h : t.get? name with
      | none          => .error (.unknownTemplate name)
      | some template =>
        have := unvisited_lt h hp
        match t.follow (path ++ [name]) done template.references.reverse with
        | .error e => .error e
        | .ok done => t.follow path (name :: done) more
termination_by names => ((t.unvisited path).length, names.length)

/-- Whether all references lead to templates and none leads back. -/
def check (t : TemplateTable) : Except QueryError Unit :=
  (t.follow [] [] t.names).map fun _ => ()

/-- The first name that a list holds a second time. -/
def firstRepeated? : List String → List String → Option String
  | _,    []            => none
  | seen, name :: names =>
    if seen.contains name then some name else firstRepeated? (name :: seen) names

def ofTemplates (templates : List Template) : Except QueryError TemplateTable :=
  match firstRepeated? [] (templates.map (·.name)) with
  | some name => .error (.duplicateTemplate name)
  | none      => do
    check ⟨templates⟩
    return ⟨templates⟩

/-- The table of a list of specifications. -/
def ofSpecs (specs : List TemplateSpec) : Except QueryError TemplateTable := do
  ofTemplates (← specs.mapM Template.ofSpec)

end TemplateTable

end Daybook
