import Daybook.Query.Expr

/-!
# Templates

A template is a query with a name. Its body lists filter trees and references to other templates, and
everything in it counts with a coefficient. A template takes the date range of whoever refers to it, or
has its own.
-/

namespace Daybook

/-! ### Templates as they are written -/

/-- A part of a template's body, as it is written. -/
inductive TemplateItemSpec where
  | query (expr : QueryExpr)
  | reference (name : String) (coefficient : Decimal)

/-- A template as it is written. -/
structure TemplateSpec where
  name : String
  items : List TemplateItemSpec
  coefficient : Decimal
  inheritsRange : Bool
  range? : Option DateRange
  remark? : Option String

/-! ### Compiled templates -/

/-- A part of a template's body. -/
inductive TemplateItem where
  | query (tree : FilterTree)
  | reference (name : String) (coefficient : Decimal)

/-- A named query. -/
structure Template where
  name : String
  items : List TemplateItem
  coefficient : Decimal
  inheritsRange : Bool
  range? : Option DateRange
  remark? : Option String

namespace TemplateItem

def target? : TemplateItem → Option String
  | query _          => none
  | reference name _ => some name

end TemplateItem

/-- A part of the body with its query compiled. -/
def TemplateItemSpec.compile : TemplateItemSpec → Except QueryError TemplateItem
  | query expr                 => return .query (← expr.compile)
  | reference name coefficient => .ok (.reference name coefficient)

namespace Template

/-- The template that a specification describes. -/
def ofSpec (spec : TemplateSpec) : Except QueryError Template := do
  let items ← spec.items.mapM (·.compile)
  return ⟨spec.name, items, spec.coefficient, spec.inheritsRange, spec.range?, spec.remark?⟩

/-- The names of the templates that the body refers to, in order. -/
def references (t : Template) : List String := t.items.filterMap (·.target?)

/-- The range of the template's queries, given the range of whoever refers to it. -/
def effectiveRange (t : Template) (inherited? : Option DateRange) : Option DateRange :=
  if t.inheritsRange then inherited? else t.range?

end Template

end Daybook
