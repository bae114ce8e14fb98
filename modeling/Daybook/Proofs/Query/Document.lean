import Daybook.Proofs.Query.Equality
import Daybook.Proofs.Voucher.Json
import Daybook.Query.Document

/-!
# Reading back queries

A query is read back from its document as it was written (`QueryExpr.readsAs`). The name of its combinator is one
member of the document; the others are the operands, or the fields that are asked for. So the name has to be
found among the fields and taken away from them again (`Json.tagged?_objOf`).
-/

namespace Daybook

/-! ### Fields -/

lemma readsAs_sign (s : SignFilter) : ReadsAs s s := by
  cases s with
  | either | positive | negative => exact ⟨rfl, Json.noConfusion⟩

lemma readsAs_text (x : TextExpr) : ReadsAs x x := by
  cases x with
  | absent | exact _ | like _ | regex _ => exact ⟨rfl, Json.noConfusion⟩

/-- A code is a number, so it is not taken for one of the names. -/
lemma readsAs_subaccount (s : SubaccountFilter) : ReadsAs s s := by
  cases s with
  | any | absent => exact ⟨rfl, Json.noConfusion⟩
  | is code =>
    have read := (readsAs_uint8 code).read
    refine ⟨?_, Json.noConfusion⟩
    simp only [toJson, FromJson.fromJson?] at read ⊢
    rw [read]

lemma readsAs_range (r : DateRange) : ReadsAs r r := by
  obtain ⟨record, hrecord, get⟩ := Record.exists_of_objOf ["start", "end", "nullable", "null_only"]
    [("start", some (toJson r.first?)), ("end", some (toJson r.last?)),
      ("nullable", some (toJson r.undated)), ("null_only", some (toJson r.undatedOnly))]
    rfl (by decide)
  change Record.of? _ (toJson r) = _ at hrecord
  have first := Record.withDefault_of_read none (get "start" _ (by simp))
    (fromJson?_option (rel_readsAs readsAs_date r.first?))
  have last := Record.withDefault_of_read none (get "end" _ (by simp))
    (fromJson?_option (rel_readsAs readsAs_date r.last?))
  have undated := Record.withDefault_of_read false (get "nullable" _ (by simp))
    (readsAs_bool r.undated).read
  have only := Record.withDefault_of_read false (get "null_only" _ (by simp))
    (readsAs_bool r.undatedOnly).read
  refine ⟨?_, Json.noConfusion⟩
  simp only [FromJson.fromJson?, hrecord, Option.bind_eq_bind, Option.bind_some, first, last, undated, only]

/-! ### Names without contents -/

lemma emptyToNull_sign (s : SignFilter) : (toJson s).emptyToNull = toJson s := by
  cases s <;> rfl

lemma emptyToNull_kind (k : VoucherKind) : (toJson k).emptyToNull = toJson k := rfl

lemma emptyToNull_text (x : TextExpr) : (toJson x).emptyToNull = toJson x := by
  cases x <;> rfl

/-! ### Criteria -/

namespace CriteriaExpr

/-- The criteria without the minus sign that a zero may carry. -/
def unsigned (c : CriteriaExpr) : CriteriaExpr := { c with amount? := c.amount?.map Decimal.unsigned }

lemma sameAs_unsigned (c : CriteriaExpr) : c.SameAs c.unsigned where
  amount := rel_map_self Decimal.sameAs_unsigned c.amount?
  others_eq := rfl

/-- The fields that are asked for are found again, and the others are left open again. -/
lemma fromJson?_objOf (c : CriteriaExpr) : fromJson? (.objOf c.members) = some c.unsigned := by
  obtain ⟨record, hrecord, get⟩ := Record.exists_of_objOf fieldNames c.members rfl (by decide)
  have texts : ∀ text? : Option String, Option.Rel ReadsAs text? text? := rel_readsAs readsAs_string
  have patterns : ∀ x? : Option TextExpr, Option.Rel ReadsAs x? x? := rel_readsAs readsAs_text
  have amounts := rel_map_self readsAs_decimal c.amount?
  have owner := Record.withDefault_none (get "user" _ (by simp [members])) (texts c.owner?)
  have currency := Record.withDefault_none (get "currency" _ (by simp [members])) (texts c.currency?)
  have account := Record.withDefault_none (get "title" _ (by simp [members]))
    (rel_readsAs readsAs_uint32 c.account?)
  have subaccount := Record.withDefault_none (get "sub_title" _ (by simp [members]))
    (rel_readsAs readsAs_subaccount c.subaccount?)
  have content := Record.named?_of_rel (get "content" _ (by simp [members])) (patterns c.content?)
    emptyToNull_text
  have remark := Record.named?_of_rel (get "remark" _ (by simp [members])) (patterns c.remark?)
    emptyToNull_text
  have amount := Record.withDefault_none (get "fund" _ (by simp [members])) amounts
  have sign := Record.named?_of_rel (get "direction" _ (by simp [members]))
    (rel_readsAs readsAs_sign c.sign?) emptyToNull_sign
  have kind := Record.named?_of_rel (get "kind" _ (by simp [members]))
    (rel_readsAs readsAs_kind c.kind?) emptyToNull_kind
  have voucherRemark := Record.named?_of_rel (get "voucher_remark" _ (by simp [members]))
    (patterns c.voucherRemark?) emptyToNull_text
  have range := Record.withDefault_none (get "range" _ (by simp [members]))
    (rel_readsAs readsAs_range c.range?)
  simp only [FromJson.fromJson?, hrecord, Option.bind_eq_bind, Option.bind_some, owner, currency, account,
    subaccount, content, remark, amount, sign, kind, voucherRemark, range, unsigned]

end CriteriaExpr

/-! ### Names of queries -/

/-- The name is found among the members, and the other members are left. -/
lemma Json.tagged?_objOf {key tag : String} {members : List (String × Option Json)}
    (h : key ∉ members.map (·.1)) (numbered : List String) :
    (objOf ((key, some (.str tag)) :: members)).tagged? key numbered = some (tag, objOf members) := by
  have others : ∀ member ∈ (Record.ofMembers members).fields, member.1 ≠ key := by
    rintro member hmember rfl
    exact h ((Record.names_ofMembers_sublist members).subset (List.mem_map_of_mem hmember))
  have found : ((key, Json.str tag) :: (Record.ofMembers members).fields).filter (·.1 == key)
      = [(key, .str tag)] := by
    rw [List.filter_cons_of_pos (by simp), List.filter_eq_nil_iff.2 (by simpa using others)]
  have left : ((key, Json.str tag) :: (Record.ofMembers members).fields).filter (·.1 != key)
      = (Record.ofMembers members).fields := by
    rw [List.filter_cons_of_neg (by simp), List.filter_eq_self.2 (by simpa using others)]
  change tagged? key numbered (.obj ((key, .str tag) :: (Record.ofMembers members).fields)) = _
  rw [tagged?, found, left]
  rfl

/-! ### Queries -/

namespace QueryExpr

mutual

/-- The query without the minus signs that zeros may carry. -/
def unsigned : QueryExpr → QueryExpr
  | atom criteria               => atom criteria.unsigned
  | combine combinator operands => combine combinator (unsignedAll operands)

def unsignedAll : List QueryExpr → List QueryExpr
  | []      => []
  | q :: qs => q.unsigned :: unsignedAll qs

end

mutual

lemma sameAs_unsigned (q : QueryExpr) : q.SameAs q.unsigned := by
  match q with
  | .atom c =>
    rw [unsigned]
    exact .atom c.sameAs_unsigned
  | .combine c qs =>
    rw [unsigned]
    exact .combine c (forall₂_unsignedAll qs)

lemma forall₂_unsignedAll (qs : List QueryExpr) : List.Forall₂ SameAs qs (unsignedAll qs) := by
  match qs with
  | [] => exact .nil
  | q :: qs => exact .cons q.sameAs_unsigned (forall₂_unsignedAll qs)

end

/-- A document with the name of a combinator and its operands is read as what they combine to. -/
lemma read?_combine {numbered : List String} {j content : Json} {items : List Json}
    {combinator : Combinator} {qs : List QueryExpr}
    (tagged : j.tagged? "op" numbered = some (combinator.name, content))
    (found : j.operands? = some items) (operands : readAll? items = some qs) :
    read? numbered j = some (combine combinator qs) := by
  have named : combinator.name ≠ "atom" := by cases combinator <;> decide
  rw [read?, tagged]
  split
  · next h => cases h
  · next h => exact absurd (congrArg Prod.fst (Option.some.inj h)) named
  · next h =>
    obtain ⟨rfl, rfl⟩ := Prod.mk.inj (Option.some.inj h)
    split
    · next missing =>
      rw [found] at missing
      cases missing
    · next items' found' =>
      obtain rfl := Option.some.inj (found.symm.trans found')
      rw [Combinator.ofName?_name, operands]

mutual

lemma read?_write (numbered : List String) (q : QueryExpr) :
    read? numbered q.write = some q.unsigned := by
  match q with
  | .atom c =>
    have tagged : (write (.atom c)).tagged? "op" numbered = some ("atom", .objOf c.members) :=
      Json.tagged?_objOf (show "op" ∉ CriteriaExpr.fieldNames by decide) numbered
    rw [read?, tagged, unsigned]
    simp only [c.fromJson?_objOf, Option.map_some]
  | .combine c qs =>
    have other : "op" ∉ [("operands", some (Json.arr (writeAll qs)))].map (·.1) :=
      show "op" ∉ ["operands"] by decide
    have tagged : (write (.combine c qs)).tagged? "op" numbered
        = some (c.name, .objOf [("operands", some (.arr (writeAll qs)))]) := by
      rw [write]
      exact Json.tagged?_objOf other numbered
    have found : (write (.combine c qs)).operands? = some (writeAll qs) := by
      rw [write]
      rfl
    rw [unsigned]
    exact read?_combine tagged found (readAll?_writeAll qs)

lemma readAll?_writeAll (qs : List QueryExpr) : readAll? (writeAll qs) = some (unsignedAll qs) := by
  match qs with
  | [] => rw [writeAll, readAll?, unsignedAll]
  | q :: qs =>
    rw [writeAll, readAll?, unsignedAll, read?_write, readAll?_writeAll]
    rfl

end

/-- Nested as it is, a query is read back from its document. -/
lemma readsAs (q : QueryExpr) : ReadsAs q q.unsigned := by
  refine ⟨read?_write [] q, ?_⟩
  cases q with
  | atom | combine => exact Json.noConfusion

end QueryExpr

end Daybook
