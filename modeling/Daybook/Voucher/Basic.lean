import Daybook.Calendar.Date
import Daybook.Decimal.Arithmetic

/-!
# Vouchers

A `Voucher` is one double-entry record: an optional date, a kind, and entries. Each `Entry` books an
amount in a currency on an account. The amount may still be unknown; it counts as zero then.

A voucher balances in a currency if its amounts in it add up to zero, see `Voucher.balanceIn?`.
-/

namespace Daybook

/-- What a voucher was written for. -/
inductive VoucherKind where
  | ordinary
  | carry
  | annualCarry
  | depreciation
  | devaluation
  | amortization
  | uncertain
  deriving DecidableEq

namespace VoucherKind

def all : List VoucherKind :=
  [.ordinary, .carry, .annualCarry, .depreciation, .devaluation, .amortization, .uncertain]

def rank : VoucherKind → Nat
  | .ordinary     => 0
  | .carry        => 1
  | .annualCarry  => 2
  | .depreciation => 3
  | .devaluation  => 4
  | .amortization => 5
  | .uncertain    => 6

def name : VoucherKind → String
  | .ordinary     => "ordinary"
  | .carry        => "carry"
  | .annualCarry  => "annual_carry"
  | .depreciation => "depreciation"
  | .devaluation  => "devalue"
  | .amortization => "amortization"
  | .uncertain    => "uncertain"

def ofName? (name : String) : Option VoucherKind := all.find? (·.name == name)

@[simp] theorem ofName?_name (k : VoucherKind) : ofName? k.name = some k := by
  cases k <;> decide +kernel

end VoucherKind

/-- The currency of an entry that names none. -/
def baseCurrency : String := "CNY"

/-- One line of a voucher. -/
structure Entry where
  owner? : Option String
  currency : String
  account : UInt32
  subaccount? : Option UInt8
  content? : Option String
  amount? : Option Decimal
  remark? : Option String
  deriving DecidableEq

namespace Entry

/-- An entry in the base currency with nothing but its account and amount. -/
def plain (account : UInt32) (amount? : Option Decimal) : Entry :=
  ⟨none, baseCurrency, account, none, none, amount?, none⟩

/-- The amount, or zero while it is unknown. -/
def amount (e : Entry) : Decimal := e.amount?.getD Decimal.zero

end Entry

/-- A double-entry record. -/
structure Voucher where
  id? : Option String
  date? : Option Date
  kind : VoucherKind
  remark? : Option String
  entries : List Entry
  deriving DecidableEq

namespace Voucher

/-- The members of a list without repetitions, in the order of their first appearance. -/
def distinct [BEq α] : List α → List α
  | []      => []
  | x :: xs => x :: (distinct xs).filter (· != x)

/-- The currencies of the entries, in the order of their first appearance. -/
def currencies (v : Voucher) : List String := distinct (v.entries.map (·.currency))

def entriesIn (v : Voucher) (currency : String) : List Entry :=
  v.entries.filter (·.currency == currency)

/-- The sum of the amounts in a currency; none if no entry is in it. -/
def balanceIn? (A : Arithmetic) (v : Voucher) (currency : String) :
    Except Overflow (Option Decimal) := do
  let total ← A.sum ((v.entriesIn currency).map Entry.amount)
  return if (v.entriesIn currency).isEmpty then none else some total

end Voucher

end Daybook
