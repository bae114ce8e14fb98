import Daybook.Proofs.Calendar.Text
import Daybook.Proofs.Json.Record
import Daybook.Voucher.Json

/-!
# Reading back vouchers

A list of vouchers is read back from its document as it was written (`vouchers_roundTrip`). Fields without value
are left out or null, and are missing again; the currency and the kind are always written, so that no default
takes their place.
-/

namespace Daybook

/-! ### Fields -/

lemma readsAs_date (d : Date) : ReadsAs d d := ⟨d.parse?_render, Json.noConfusion⟩

lemma readsAs_kind (k : VoucherKind) : ReadsAs k k := ⟨k.ofName?_name, Json.noConfusion⟩

/-! ### Entries -/

/-- The same entry, with an amount of the same value and as many places. -/
structure Entry.SameAs (e e' : Entry) : Prop where
  owner?_eq : e.owner? = e'.owner?
  currency_eq : e.currency = e'.currency
  account_eq : e.account = e'.account
  subaccount?_eq : e.subaccount? = e'.subaccount?
  content?_eq : e.content? = e'.content?
  amount : Option.Rel (fun a a' => a.sameValue a' = true ∧ a.scale = a'.scale) e.amount? e'.amount?
  remark?_eq : e.remark? = e'.remark?

/-- The entry without the minus sign that a zero may carry. -/
def Entry.unsigned (e : Entry) : Entry := { e with amount? := e.amount?.map Decimal.unsigned }

lemma Entry.sameAs_unsigned (e : Entry) : e.SameAs e.unsigned where
  owner?_eq := rfl
  currency_eq := rfl
  account_eq := rfl
  subaccount?_eq := rfl
  content?_eq := rfl
  amount := rel_map_self (fun a => ⟨a.sameValue_unsigned, rfl⟩) e.amount?
  remark?_eq := rfl

/-- The fields of an entry are found again, and read as they were. -/
lemma Entry.readsAs (e : Entry) : ReadsAs e e.unsigned := by
  obtain ⟨record, hrecord, get⟩ := Record.exists_of_objOf fieldNames
    [("user", e.owner?.map toJson), ("currency", some (toJson e.currency)),
      ("title", some (toJson e.account)), ("sub_title", e.subaccount?.map toJson),
      ("content", e.content?.map toJson), ("fund", some (toJson e.amount?)),
      ("remark", e.remark?.map toJson)] rfl (by decide)
  change Record.of? _ (toJson e) = _ at hrecord
  have texts : ∀ text? : Option String, Option.Rel ReadsAs text? text? := rel_readsAs readsAs_string
  have amounts := rel_map_self readsAs_decimal e.amount?
  have owner := Record.withDefault_none (get "user" _ (by simp)) (texts e.owner?)
  have currency := Record.withDefault_of_read baseCurrency (get "currency" _ (by simp))
    (readsAs_string e.currency).read
  have account := Record.required_of_readsAs (get "title" _ (by simp)) (readsAs_uint32 e.account)
  have subaccount := Record.withDefault_none (get "sub_title" _ (by simp))
    (rel_readsAs readsAs_uint8 e.subaccount?)
  have content := Record.withDefault_none (get "content" _ (by simp)) (texts e.content?)
  have amount := Record.withDefault_of_read none (get "fund" _ (by simp)) (fromJson?_option amounts)
  have remark := Record.withDefault_none (get "remark" _ (by simp)) (texts e.remark?)
  refine ⟨?_, Json.noConfusion⟩
  simp only [FromJson.fromJson?, hrecord, Option.bind_eq_bind, Option.bind_some, owner, currency, account,
    subaccount, content, amount, remark, unsigned]

/-! ### Vouchers -/

/-- The same voucher, with the same entries in the same order. -/
structure Voucher.SameAs (v v' : Voucher) : Prop where
  id?_eq : v.id? = v'.id?
  date?_eq : v.date? = v'.date?
  kind_eq : v.kind = v'.kind
  remark?_eq : v.remark? = v'.remark?
  entries : List.Forall₂ Entry.SameAs v.entries v'.entries

/-- The voucher without the minus signs that zeros may carry. -/
def Voucher.unsigned (v : Voucher) : Voucher := { v with entries := v.entries.map Entry.unsigned }

lemma Voucher.sameAs_unsigned (v : Voucher) : v.SameAs v.unsigned where
  id?_eq := rfl
  date?_eq := rfl
  kind_eq := rfl
  remark?_eq := rfl
  entries := forall₂_map_self Entry.sameAs_unsigned v.entries

lemma Voucher.readsAs (v : Voucher) : ReadsAs v v.unsigned := by
  obtain ⟨record, hrecord, get⟩ := Record.exists_of_objOf fieldNames
    [("id", v.id?.map toJson), ("date", some (toJson v.date?)), ("kind", some (toJson v.kind)),
      ("remark", v.remark?.map toJson), ("details", some (toJson v.entries))] rfl (by decide)
  change Record.of? _ (toJson v) = _ at hrecord
  have listed := readsAs_map Entry.readsAs v.entries
  have id := Record.withDefault_none (get "id" _ (by simp)) (rel_readsAs readsAs_string v.id?)
  have date := Record.withDefault_of_read none (get "date" _ (by simp))
    (fromJson?_option (rel_readsAs readsAs_date v.date?))
  have kind := Record.withDefault_of_read .ordinary (get "kind" _ (by simp)) (readsAs_kind v.kind).read
  have remark := Record.withDefault_none (get "remark" _ (by simp)) (rel_readsAs readsAs_string v.remark?)
  have entries := Record.withDefault_of_read [] (get "details" _ (by simp)) listed.read
  refine ⟨?_, Json.noConfusion⟩
  simp only [FromJson.fromJson?, hrecord, Option.bind_eq_bind, Option.bind_some, id, date, kind, remark,
    entries, unsigned]

/-- From the document of a list of vouchers the same list is read: the same vouchers with the same entries, in
order, and their amounts with all of their places. -/
theorem vouchers_roundTrip (vs : List Voucher) : ∃ vs' : List Voucher,
    fromJson? (toJson vs) = some vs' ∧ List.Forall₂ Voucher.SameAs vs vs' := by
  refine ⟨vs.map Voucher.unsigned, (readsAs_list ?_).read, ?_⟩
  · exact List.forall₂_map_right_iff.2 (List.forall₂_same.2 fun v _ => v.readsAs)
  · exact List.forall₂_map_right_iff.2 (List.forall₂_same.2 fun v _ => v.sameAs_unsigned)

end Daybook
