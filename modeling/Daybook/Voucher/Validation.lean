import Daybook.Voucher.Text

/-!
# Checking vouchers

A voucher may be booked if it has entries, their account codes have four digits and their subaccount
codes two, every entry names a currency and an amount, and the amounts in each currency add up to
zero. `Voucher.violations` lists the rules that a voucher breaks: those of its entries in order, then
one for each currency that does not balance.
-/

namespace Daybook

/-- A broken rule of booking. -/
inductive Rule where
  | accountDigits (index : Nat) (account : UInt32)
  | subaccountDigits (index : Nat) (code : UInt8)
  | blankCurrency (index : Nat)
  | missingAmount (index : Nat) (account : UInt32)
  | unbalanced (currency : String) (residual : Decimal)
  | noEntries
  deriving DecidableEq

namespace Rule

def codes : List String := ["E1001", "E1002", "E1003", "E3001", "E3002", "E3003"]

def code : Rule → String
  | .accountDigits ..    => "E1001"
  | .subaccountDigits .. => "E1002"
  | .blankCurrency ..    => "E1003"
  | .unbalanced ..       => "E3001"
  | .missingAmount ..    => "E3002"
  | .noEntries           => "E3003"

def message : Rule → String
  | .accountDigits _ account => "Account code " ++ toString account.toNat ++ " is not 4 digits"
  | .subaccountDigits _ code => "Sub-account code " ++ toString code.toNat ++ " is not 2 digits"
  | .blankCurrency _         => "Currency code is empty"
  | .missingAmount _ account => "Detail " ++ Entry.renderAccount account ++ " has no amount"
  | .unbalanced currency residual =>
    "Voucher does not balance in " ++ currency ++ ": residual " ++ residual.render
  | .noEntries => "Voucher has no details"

/-- The entry or currency that is wrong. -/
def context? : Rule → Option String
  | .accountDigits index _    => some ("detail #" ++ toString index)
  | .subaccountDigits index _ => some ("detail #" ++ toString index)
  | .blankCurrency index      => some ("detail #" ++ toString index)
  | .missingAmount index _    => some ("detail #" ++ toString index)
  | .unbalanced currency _    => some currency
  | .noEntries                => none

def render (r : Rule) : String := "[" ++ r.code ++ "] " ++ r.message

end Rule

def Entry.violations (index : Nat) (e : Entry) : List Rule :=
  (if 1000 ≤ e.account.toNat ∧ e.account.toNat ≤ 9999 then []
    else [.accountDigits index e.account]) ++
  (match e.subaccount? with
    | some code => if code.toNat ≤ 99 then [] else [.subaccountDigits index code]
    | none      => []) ++
  (if Text.allBlank e.currency then [.blankCurrency index] else []) ++
  (if e.amount?.isSome then [] else [.missingAmount index e.account])

/-- The rules that entries break, numbered from `index`. -/
def Entry.allViolations (index : Nat) : List Entry → List Rule
  | []      => []
  | e :: es => e.violations index ++ allViolations (index + 1) es

namespace Voucher

/-- The rule that a voucher breaks in one currency, if it does not balance. -/
def imbalance (v : Voucher) (currency : String) : Except Overflow (List Rule) := do
  let residual := (← v.balanceIn? .rounding currency).getD Decimal.zero
  return if residual.isZero then [] else [.unbalanced currency residual]

/-- The rules that a voucher breaks. A voucher without entries breaks that rule alone. -/
def violations (v : Voucher) : Except Overflow (List Rule) :=
  if v.entries.isEmpty then .ok [.noEntries]
  else do
    let imbalances ← v.currencies.mapM v.imbalance
    return Entry.allViolations 0 v.entries ++ imbalances.flatten

end Voucher

/-- A broken rule with the voucher that broke it. -/
structure Finding where
  rule : Rule
  voucherId? : Option String
  date? : Option Date
  deriving DecidableEq

def Voucher.findings (v : Voucher) : Except Overflow (List Finding) := do
  return (← v.violations).map fun rule => ⟨rule, v.id?, v.date?⟩

/-- The findings in a list of vouchers, in order. -/
def findings (vouchers : List Voucher) : Except Overflow (List Finding) := do
  return (← vouchers.mapM Voucher.findings).flatten

/-- The broken rules of one voucher on one line. -/
def renderRules (rules : List Rule) : String :=
  "voucher violates " ++ toString rules.length ++ " invariant(s): " ++
    String.intercalate "; " (rules.map Rule.render)

end Daybook
