import Daybook.Calendar.DateRange
import Daybook.Json.Record
import Daybook.Query.Expr
import Daybook.Voucher.Json

/-!
# Queries in documents

A query is an object whose member `op` says what it is: criteria, with the fields that are asked for, or
a combinator with its list of operands. It may also be an array that begins with the name. Operands may
give their names by number.
-/

namespace Daybook

/-! ### Criteria -/

instance : ToJson SubaccountFilter where
  toJson
    | .any     => .str "any"
    | .absent  => .str "none"
    | .is code => toJson code

instance : FromJson SubaccountFilter where
  fromJson? j :=
    match (fromJson? j : Option UInt8) with
    | some code => some (.is code)
    | none =>
      match j.tag? with
      | some "any"  => some .any
      | some "none" => some .absent
      | _           => none

instance : ToJson SignFilter where
  toJson
    | .either   => .str "either"
    | .positive => .str "positive"
    | .negative => .str "negative"

instance : FromJson SignFilter where
  fromJson? j :=
    match j.tag? with
    | some "either"   => some .either
    | some "positive" => some .positive
    | some "negative" => some .negative
    | _               => none

instance : ToJson TextExpr where
  toJson
    | .absent       => .str "absent"
    | .exact text   => .obj [("exact", .str text)]
    | .like text    => .obj [("like", .str text)]
    | .regex source => .obj [("regex", .str source)]

instance : FromJson TextExpr where
  fromJson?
    | .obj [("exact", .str text)]   => some (.exact text)
    | .obj [("like", .str text)]    => some (.like text)
    | .obj [("regex", .str source)] => some (.regex source)
    | j => if j.tag? = some "absent" then some .absent else none

namespace CriteriaExpr

def fieldNames : List String :=
  ["user", "currency", "title", "sub_title", "content", "remark", "fund", "direction", "kind",
    "voucher_remark", "range"]

/-- The fields that are asked for, as members of an object. -/
def members (c : CriteriaExpr) : List (String × Option Json) :=
  [("user", c.owner?.map toJson), ("currency", c.currency?.map toJson),
   ("title", c.account?.map toJson), ("sub_title", c.subaccount?.map toJson),
   ("content", c.content?.map toJson), ("remark", c.remark?.map toJson),
   ("fund", c.amount?.map toJson), ("direction", c.sign?.map toJson), ("kind", c.kind?.map toJson),
   ("voucher_remark", c.voucherRemark?.map toJson), ("range", c.range?.map toJson)]

instance : FromJson CriteriaExpr where
  fromJson? j := do
    let r ← Record.of? fieldNames j
    some {
      owner? := ← r.withDefault "user" none
      currency? := ← r.withDefault "currency" none
      account? := ← r.withDefault "title" none
      subaccount? := ← r.withDefault "sub_title" none
      content? := ← r.named? "content"
      remark? := ← r.named? "remark"
      amount? := ← r.withDefault "fund" none
      sign? := ← r.named? "direction"
      kind? := ← r.named? "kind"
      voucherRemark? := ← r.named? "voucher_remark"
      range? := ← r.withDefault "range" none }

end CriteriaExpr

/-! ### Queries -/

/-- A name, or the number of one of some names. -/
def Json.nameAmong? (numbered : List String) : Json → Option String
  | .str name => some name
  | .int i    => if 0 ≤ i then numbered[i.toNat]? else none
  | _         => none

/-- The name of a tagged object or array, with what is beside it. -/
def Json.tagged? (key : String) (numbered : List String) : Json → Option (String × Json)
  | .obj members =>
    match members.filter (·.1 == key) with
    | [(_, tag)] => (tag.nameAmong? numbered).map (·, .obj (members.filter (·.1 != key)))
    | _          => none
  | .arr (tag :: rest) => (tag.nameAmong? numbered).map (·, .arr rest)
  | _ => none

/-- The operands in a tagged object or array. -/
def Json.operands? : Json → Option (List Json)
  | .obj members =>
    match members.filter (·.1 == "operands") with
    | [(_, .arr items)] => some items
    | _                 => none
  | .arr [_, .arr items] => some items
  | _ => none

theorem Json.sizeOf_operands?_lt {j : Json} {items : List Json} (h : j.operands? = some items) :
    sizeOf items < sizeOf j := by
  unfold operands? at h
  split at h
  · rename_i members
    split at h
    · rename_i name items' hf
      cases h
      have hm : (name, Json.arr items) ∈ members :=
        (List.mem_filter.1 (hf ▸ List.mem_singleton_self (name, Json.arr items))).1
      have := List.sizeOf_lt_of_mem hm
      simp only [Prod.mk.sizeOf_spec, Json.arr.sizeOf_spec, Json.obj.sizeOf_spec] at this ⊢
      omega
    · cases h
  · cases h
    simp only [Json.arr.sizeOf_spec, List.cons.sizeOf_spec]
    omega
  · cases h

namespace QueryExpr

def names : List String := "atom" :: Combinator.all.map (·.name)

mutual

def write : QueryExpr → Json
  | atom criteria => .objOf (("op", some (.str "atom")) :: criteria.members)
  | combine combinator operands =>
    .obj [("op", .str combinator.name), ("operands", .arr (writeAll operands))]

def writeAll : List QueryExpr → List Json
  | []      => []
  | e :: es => e.write :: writeAll es

end

mutual

/-- The query in a document, with the names that can be given by number. -/
def read? (numbered : List String) (j : Json) : Option QueryExpr :=
  match j.tagged? "op" numbered with
  | none => none
  | some ("atom", content) => (fromJson? content).map atom
  | some (name, _) =>
    match h : j.operands? with
    | none       => none
    | some items =>
      have : sizeOf items < sizeOf j := Json.sizeOf_operands?_lt h
      match Combinator.ofName? name, readAll? items with
      | some combinator, some operands => some (combine combinator operands)
      | _, _ => none
termination_by sizeOf j

def readAll? (js : List Json) : Option (List QueryExpr) :=
  match js with
  | []      => some []
  | j :: js => return (← read? names j) :: (← readAll? js)
termination_by sizeOf js

end

end QueryExpr

instance : ToJson QueryExpr := ⟨QueryExpr.write⟩
instance : FromJson QueryExpr := ⟨QueryExpr.read? []⟩

end Daybook
