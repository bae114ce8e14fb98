import Daybook.Voucher.Basic
import Daybook.Calendar.Text
import Daybook.Decimal.Text

/-!
# Written vouchers

A voucher is written as a line with its date, id, kind and remark, followed by one line for each
entry: account, content, remark and owner, then amount and currency.
-/

namespace Daybook

namespace Entry

/-- An account code of at least four digits, with its letter. -/
def renderAccount (account : UInt32) : String := "T" ++ String.ofList (Date.padded 4 account.toNat)

/-- A subaccount code of at least two digits. -/
def renderSubaccount (code : UInt8) : String := String.ofList (Date.padded 2 code.toNat)

/-- An optional part of a line. -/
def optional (part? : Option α) (write : α → String) : String :=
  match part? with
  | some part => write part
  | none      => ""

def render (e : Entry) : String :=
  "  " ++ renderAccount e.account
    ++ optional e.subaccount? renderSubaccount
    ++ optional e.content? (fun s => " '" ++ s ++ "'")
    ++ optional e.remark? (fun s => " \"" ++ s ++ "\"")
    ++ optional e.owner? (" U" ++ ·)
    ++ "  " ++ (match e.amount? with
      | some a => a.render
      | none   => "?")
    ++ " " ++ e.currency

instance : ToString Entry := ⟨render⟩

end Entry

namespace Voucher

def render (v : Voucher) : String :=
  renderDate? v.date?
    ++ Entry.optional v.id? (fun id => " ^" ++ id ++ "^")
    ++ (if v.kind = .ordinary then "" else " " ++ v.kind.name)
    ++ Entry.optional v.remark? (fun s => " %" ++ s ++ "%")
    ++ String.join (v.entries.map ("\n" ++ ·.render))

instance : ToString Voucher := ⟨render⟩

end Voucher

end Daybook
