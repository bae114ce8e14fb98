import Daybook.Proofs.Query.Document
import Daybook.Proofs.Template.Equality
import Daybook.Template.Document

/-!
# Reading back templates

A template is read back from its document as it was written, with all the queries in its body
(`TemplateSpec.readsAs`). Coefficients are always written, so that no default takes their place.
-/

namespace Daybook

/-! ### Items -/

namespace TemplateItemSpec

/-- The item without the minus signs that zeros may carry. -/
def unsigned : TemplateItemSpec → TemplateItemSpec
  | query expr                 => query expr.unsigned
  | reference name coefficient => reference name coefficient.unsigned

lemma sameAs_unsigned (item : TemplateItemSpec) : item.SameAs item.unsigned := by
  cases item with
  | query q => exact .query q.sameAs_unsigned
  | reference name k => exact .reference name k.sameAs_unsigned

/-- Neither item is written as an array, so it does not matter whether one would do. -/
lemma read?_toJson (positional : Bool) (item : TemplateItemSpec) :
    read? positional (toJson item) = some item.unsigned := by
  cases item with
  | query q =>
    show (fromJson? (toJson q)).map query = _
    rw [q.readsAs.read]
    rfl
  | reference name k =>
    obtain ⟨record, hrecord, get⟩ := Record.exists_of_objOf ["name", "coefficient"]
      [("name", some (toJson name)), ("coefficient", some (toJson k))] rfl (by decide)
    change Record.of? _ (.obj [("name", toJson name), ("coefficient", toJson k)]) = _ at hrecord
    have hname := Record.required_of_readsAs (get "name" _ (by simp)) (readsAs_string name)
    have hk := Record.withDefault_of_read Decimal.one (get "coefficient" _ (by simp))
      (readsAs_decimal k).read
    show read? positional (.obj [("ref", .obj [("name", toJson name), ("coefficient", toJson k)])]) = _
    rw [read?, if_neg (by simp [Json.isArray]), hrecord]
    simp only [Option.bind_eq_bind, Option.bind_some, hname, hk]
    rfl

lemma list?_toJson (positional : Bool) (items : List TemplateItemSpec) :
    Json.list? (read? positional) (toJson items) = some (items.map (·.unsigned)) := by
  show (items.map toJson).mapM (read? positional) = _
  induction items with
  | nil => rfl
  | cons item items ih =>
    rw [List.map_cons, List.mapM_cons, read?_toJson, ih]
    rfl

end TemplateItemSpec

/-! ### Templates -/

namespace TemplateSpec

/-- The template without the minus signs that zeros may carry. -/
def unsigned (s : TemplateSpec) : TemplateSpec :=
  { s with items := s.items.map (·.unsigned), coefficient := s.coefficient.unsigned }

lemma sameAs_unsigned (s : TemplateSpec) : s.SameAs s.unsigned where
  items := forall₂_map_self TemplateItemSpec.sameAs_unsigned s.items
  coefficient := s.coefficient.sameAs_unsigned
  others_eq := rfl

lemma readsAs (s : TemplateSpec) : ReadsAs s s.unsigned := by
  obtain ⟨record, hrecord, get⟩ := Record.exists_of_objOf fieldNames
    [("name", some (toJson s.name)), ("items", some (toJson s.items)),
      ("coefficient", some (toJson s.coefficient)), ("inherits_range", some (toJson s.inheritsRange)),
      ("range", s.range?.map toJson), ("remark", s.remark?.map toJson)] rfl (by decide)
  change Record.of? _ (toJson s) = _ at hrecord
  have name := Record.required_of_readsAs (get "name" _ (by simp)) (readsAs_string s.name)
  have items : (record.get? "items").bind (Json.list? (TemplateItemSpec.read? true))
      = some (s.items.map (·.unsigned)) := by
    rw [get "items" (some (toJson s.items)) (by simp), Option.bind_some]
    exact TemplateItemSpec.list?_toJson true s.items
  have coefficient := Record.withDefault_of_read Decimal.one (get "coefficient" _ (by simp))
    (readsAs_decimal s.coefficient).read
  have inherits := Record.withDefault_of_read false (get "inherits_range" _ (by simp))
    (readsAs_bool s.inheritsRange).read
  have range := Record.withDefault_none (get "range" _ (by simp)) (rel_readsAs readsAs_range s.range?)
  have remark := Record.withDefault_none (get "remark" _ (by simp)) (rel_readsAs readsAs_string s.remark?)
  refine ⟨?_, Json.noConfusion⟩
  simp only [FromJson.fromJson?, read?, hrecord, Option.bind_eq_bind, Option.bind_some, name, items,
    coefficient, inherits, range, remark, unsigned]

end TemplateSpec

end Daybook
