import Daybook.Calendar.Text
import Daybook.Report.Spec
import Daybook.Voucher.Text

/-!
# Keys of groups

A `GroupKey` is what the entries of a group have in common at one level of a report. Keys have an order,
in which an absent text, code or date comes first, and a written form.
-/

namespace Daybook

/-- What the entries of a group have in common. A date is the first day of its period. -/
inductive GroupKey where
  | root
  | currency (code : String)
  | account (code : UInt32)
  | subaccount (code? : Option UInt8)
  | content (text? : Option String)
  | remark (text? : Option String)
  | owner (name? : Option String)
  | kind (k : VoucherKind)
  | date (date? : Option Date)
  deriving DecidableEq

/-- The key of an entry of a voucher at a level. -/
def Level.key (l : Level) (e : Entry) (v : Voucher) : GroupKey :=
  match l with
  | currency   => .currency e.currency
  | account    => .account e.account
  | subaccount => .subaccount e.subaccount?
  | content    => .content e.content?
  | remark     => .remark e.remark?
  | owner      => .owner e.owner?
  | kind       => .kind v.kind
  | period p   => .date (v.date?.map p.startOf)

namespace GroupKey

/-! ### Order -/

/-- The place of a key's form in the order. -/
def rank : GroupKey → Nat
  | root         => 0
  | currency _   => 1
  | account _    => 2
  | subaccount _ => 3
  | content _    => 4
  | remark _     => 5
  | owner _      => 6
  | kind _       => 7
  | date _       => 8

/-- An optional value is at most another one; an absent one comes first. -/
def leOption (le : α → α → Bool) : Option α → Option α → Bool
  | none,   _      => true
  | some _, none   => false
  | some a, some b => le a b

/-- Whether a key is another one or comes before it. -/
def le : GroupKey → GroupKey → Bool
  | currency a,   currency b   => a ≤ b
  | account a,    account b    => a ≤ b
  | subaccount a, subaccount b => leOption (· ≤ ·) a b
  | content a,    content b    => leOption (· ≤ ·) a b
  | remark a,     remark b     => leOption (· ≤ ·) a b
  | owner a,      owner b      => leOption (· ≤ ·) a b
  | kind a,       kind b       => a.rank ≤ b.rank
  | date a,       date b       => leOption (· ≤ ·) a b
  | a,            b            => a.rank ≤ b.rank

/-! ### Written form -/

def renderText? (text? : Option String) : String := text?.getD "[none]"

def render : GroupKey → String
  | root             => "TOTAL"
  | currency code    => code
  | account code     => Entry.renderAccount code
  | subaccount code? => renderText? (code?.map Entry.renderSubaccount)
  | content text?    => renderText? text?
  | remark text?     => renderText? text?
  | owner name?      => renderText? name?
  | kind k           => k.name
  | date date?       => renderDate? date?

end GroupKey

end Daybook
