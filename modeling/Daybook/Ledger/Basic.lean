import Daybook.Calendar.DateRange
import Daybook.Fault
import Daybook.Ledger.Error
import Daybook.Voucher.Validation

/-!
# Ledgers

A `Ledger` keeps vouchers by id. It takes in a voucher only if the voucher breaks no rule, and a voucher
that is taken in replaces the one with its id. A voucher without id gets a new one from an `IdSource`.

`Ledger.scan` hands out the vouchers of a range of dates: the undated ones first, then by date, and by
id within a day.
-/

namespace Daybook

/-- Where new ids come from: the id that is handed out after a number of others. -/
abbrev IdSource := Nat → String

/-- Ids that begin alike and end in a number. -/
def IdSource.numbered (beginning : String) : IdSource := fun n => beginning ++ toString n

/-- Vouchers by id, and how many new ids were handed out to them. -/
structure Ledger where
  vouchers : List (String × Voucher)
  issued : Nat

namespace Ledger

def empty : Ledger := ⟨[], 0⟩

def size (l : Ledger) : Nat := l.vouchers.length

def isEmpty (l : Ledger) : Bool := l.vouchers.isEmpty

def get? (l : Ledger) (id : String) : Option Voucher :=
  (l.vouchers.find? (·.1 == id)).map (·.2)

/-! ### Changes -/

/-- The ledger without the voucher that has an id. -/
def erase (l : Ledger) (id : String) : Ledger :=
  { l with vouchers := l.vouchers.filter (·.1 != id) }

/-- The ledger with a voucher under an id, in place of any other. -/
def insert (l : Ledger) (id : String) (v : Voucher) : Ledger :=
  { l with vouchers := (l.erase id).vouchers ++ [(id, { v with id? := some id })] }

/-- Take in a voucher that breaks no rule, and tell its id. -/
def upsert (newIds : IdSource) (l : Ledger) (v : Voucher) :
    Except (Fault LedgerError) (String × Ledger) := do
  let rules ← v.violations
  if rules.isEmpty then
    match v.id? with
    | some id => return (id, l.insert id v)
    | none    =>
      let id := newIds l.issued
      return (id, { l.insert id v with issued := l.issued + 1 })
  else throw (.error (.rejected (rules.map (·.render))))

/-- Take out the voucher with an id, and tell whether there was one. -/
def delete (l : Ledger) (id : String) : Bool × Ledger := ((l.get? id).isSome, l.erase id)

/-- Take in vouchers one by one. -/
def upsertAll (newIds : IdSource) (l : Ledger) : List Voucher → Except (Fault LedgerError) Ledger
  | []      => .ok l
  | v :: vs => do
    let (_, l) ← l.upsert newIds v
    l.upsertAll newIds vs

def ofVouchers (newIds : IdSource) (vs : List Voucher) : Except (Fault LedgerError) Ledger :=
  empty.upsertAll newIds vs

/-! ### Scans -/

/-- Whether an optional date is another one or comes before it; no date comes first. -/
def dateLe : Option Date → Option Date → Bool
  | none,   _      => true
  | some _, none   => false
  | some a, some b => a ≤ b

/-- The order of a scan: by date, then by id. -/
def scanLe (a b : String × Voucher) : Bool :=
  if a.2.date? = b.2.date? then a.1 ≤ b.1 else dateLe a.2.date? b.2.date?

/-- The vouchers in a range of dates, in the order of a scan. -/
def scan (l : Ledger) (range : DateRange) : List Voucher :=
  ((l.vouchers.filter fun (_, v) => range.contains v.date?).mergeSort scanLe).map (·.2)

end Ledger

end Daybook
