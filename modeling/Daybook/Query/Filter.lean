import Daybook.Pattern.Basic
import Daybook.Voucher.Basic

/-!
# Filters

What a query may ask of one entry (`EntryFilter`) and of the voucher around it (`VoucherFilter`). A
part that is left open accepts everything.

Two filters are the `same` if they ask the same; amounts count by their value there.
-/

namespace Daybook

/-- What an amount's sign may be. -/
inductive SignFilter where
  | either
  | positive
  | negative
  deriving DecidableEq

/-- Zero and unknown amounts have neither sign. -/
def SignFilter.accepts : SignFilter → Option Decimal → Bool
  | either,   _      => true
  | positive, some a => a.isPositive
  | negative, some a => a.isNegative
  | _,        none   => false

/-- What a subaccount may be. -/
inductive SubaccountFilter where
  | any
  | absent
  | is (code : UInt8)
  deriving DecidableEq

/-- Whether a subaccount, or its absence, is as asked. -/
def SubaccountFilter.accepts : SubaccountFilter → Option UInt8 → Bool
  | any,     _           => true
  | absent,  subaccount? => subaccount?.isNone
  | is code, subaccount? => subaccount? == some code

/-- What a text may be. A text that is missing counts as absent, and so does an empty one. -/
inductive TextFilter where
  | any
  | absent
  | exact (text : String)
  | wildcard (pattern : Wildcard)
  | regex (pattern : RegexPattern)
  deriving DecidableEq

/-- Whether a text, or its absence, is as asked. -/
def TextFilter.accepts : TextFilter → Option String → Bool
  | any,              _         => true
  | absent,           none      => true
  | absent,           some text => text.isEmpty
  | exact s,          text?     => text? == some s
  | wildcard pattern, some text => pattern.isMatch text
  | wildcard _,       none      => false
  | regex pattern,    some text => pattern.isMatch text
  | regex _,          none      => false

/-- A requirement that may be left open. -/
def meets (wanted? : Option α) (accepts : α → Bool) : Bool := wanted?.all accepts

/-! ### Entries -/

/-- What one entry has to be like. -/
structure EntryFilter where
  owner? : Option String
  currency? : Option String
  account? : Option UInt32
  subaccount : SubaccountFilter
  content : TextFilter
  remark : TextFilter
  amount? : Option Decimal
  sign : SignFilter

namespace EntryFilter

def any : EntryFilter := ⟨none, none, none, .any, .any, .any, none, .either⟩

def onAccount (account : UInt32) : EntryFilter := { any with account? := some account }

def accepts (f : EntryFilter) (e : Entry) : Bool :=
  meets f.account? (e.account == ·)
    && f.subaccount.accepts e.subaccount?
    && meets f.currency? (e.currency == ·)
    && meets f.owner? (fun owner => e.owner? == some owner)
    && meets f.amount? (fun amount => e.amount?.any amount.sameValue)
    && f.sign.accepts e.amount?
    && f.content.accepts e.content?
    && f.remark.accepts e.remark?

/-- Whether two optional amounts have the same value. -/
def sameAmount : Option Decimal → Option Decimal → Bool
  | some a, some b => a.sameValue b
  | none,   none   => true
  | _,      _      => false

def same (f g : EntryFilter) : Bool :=
  f.owner? == g.owner? && f.currency? == g.currency? && f.account? == g.account?
    && f.subaccount == g.subaccount && f.content == g.content && f.remark == g.remark
    && sameAmount f.amount? g.amount? && f.sign == g.sign

@[simp] theorem accepts_any (e : Entry) : any.accepts e = true := rfl

end EntryFilter

/-! ### Vouchers -/

/-- What a voucher has to be like. -/
structure VoucherFilter where
  kind? : Option VoucherKind
  remark : TextFilter
  deriving DecidableEq

namespace VoucherFilter

def any : VoucherFilter := ⟨none, .any⟩

/-- Whether nothing is asked. -/
def isAny (f : VoucherFilter) : Bool := f.kind?.isNone && f.remark == .any

def accepts (f : VoucherFilter) (v : Voucher) : Bool :=
  meets f.kind? (v.kind == ·) && f.remark.accepts v.remark?

@[simp] theorem accepts_any (v : Voucher) : any.accepts v = true := rfl

end VoucherFilter

end Daybook
