import Daybook.Query.Document
import Daybook.Template.Basic

/-!
# Templates in documents

A template's item is an object with one member: `query` with a query, or `ref` with the name and the
coefficient of another template. A coefficient that is left out is one. A reference may be an array of
the two in a document of its own, but not inside of another one.
-/

namespace Daybook

instance : ToJson TemplateItemSpec where
  toJson
    | .query expr => .obj [("query", toJson expr)]
    | .reference name coefficient =>
      .obj [("ref", .obj [("name", toJson name), ("coefficient", toJson coefficient)])]

/-- The item in a document. `positional` tells whether a reference may be an array. -/
def TemplateItemSpec.read? (positional : Bool) : Json → Option TemplateItemSpec
  | .obj [("query", j)] => (fromJson? j).map .query
  | .obj [("ref", j)]   =>
    if j.isArray && !positional then none
    else do
      let r ← Record.of? ["name", "coefficient"] j
      return .reference (← r.required "name") (← r.withDefault "coefficient" Decimal.one)
  | _ => none

instance : ToJson TemplateSpec where
  toJson s := .objOf [
    ("name", some (toJson s.name)),
    ("items", some (toJson s.items)),
    ("coefficient", some (toJson s.coefficient)),
    ("inherits_range", some (toJson s.inheritsRange)),
    ("range", s.range?.map toJson),
    ("remark", s.remark?.map toJson)]

def TemplateSpec.fieldNames : List String :=
  ["name", "items", "coefficient", "inherits_range", "range", "remark"]

/-- The template in a document. `positional` tells whether references may be arrays. -/
def TemplateSpec.read? (positional : Bool) (j : Json) : Option TemplateSpec := do
  let r ← Record.of? TemplateSpec.fieldNames j
  some {
    name := ← r.required "name"
    items := ← (r.get? "items").bind (Json.list? (TemplateItemSpec.read? positional))
    coefficient := ← r.withDefault "coefficient" Decimal.one
    inheritsRange := ← r.withDefault "inherits_range" false
    range? := ← r.withDefault "range" none
    remark? := ← r.withDefault "remark" none }

instance : FromJson TemplateSpec := ⟨TemplateSpec.read? true⟩

end Daybook
