import Daybook.Voucher.Basic
import Daybook.Calendar.Text
import Daybook.Json.Record

/-!
# Vouchers in documents

A ledger document is an array of vouchers. Fields without value are left out, except for the date of
a voucher and the amount of an entry, which are null. A reader fills in the base currency and the
ordinary kind.
-/

namespace Daybook

instance : ToJson VoucherKind := ⟨fun k => .str k.name⟩

instance : FromJson VoucherKind := ⟨fun j => j.tag?.bind VoucherKind.ofName?⟩

instance : ToJson Entry where
  toJson e := .objOf [
    ("user", e.owner?.map toJson),
    ("currency", some (toJson e.currency)),
    ("title", some (toJson e.account)),
    ("sub_title", e.subaccount?.map toJson),
    ("content", e.content?.map toJson),
    ("fund", some (toJson e.amount?)),
    ("remark", e.remark?.map toJson)]

def Entry.fieldNames : List String :=
  ["user", "currency", "title", "sub_title", "content", "fund", "remark"]

instance : FromJson Entry where
  fromJson? j := do
    let r ← Record.of? Entry.fieldNames j
    some {
      owner? := ← r.withDefault "user" none
      currency := ← r.withDefault "currency" baseCurrency
      account := ← r.required "title"
      subaccount? := ← r.withDefault "sub_title" none
      content? := ← r.withDefault "content" none
      amount? := ← r.withDefault "fund" none
      remark? := ← r.withDefault "remark" none }

instance : ToJson Voucher where
  toJson v := .objOf [
    ("id", v.id?.map toJson),
    ("date", some (toJson v.date?)),
    ("kind", some (toJson v.kind)),
    ("remark", v.remark?.map toJson),
    ("details", some (toJson v.entries))]

def Voucher.fieldNames : List String := ["id", "date", "kind", "remark", "details"]

instance : FromJson Voucher where
  fromJson? j := do
    let r ← Record.of? Voucher.fieldNames j
    some {
      id? := ← r.withDefault "id" none
      date? := ← r.withDefault "date" none
      kind := ← r.withDefault "kind" .ordinary
      remark? := ← r.withDefault "remark" none
      entries := ← r.withDefault "details" [] }

end Daybook
