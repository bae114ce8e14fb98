import Daybook.Calendar.Text

/-!
# Date ranges

A `DateRange` selects vouchers by date: it has optional first and last days, both inside, and says
whether undated vouchers belong to it. A range of undated vouchers only ignores its bounds.

`DateRange.contains` is membership; `hull` covers two ranges, `intersect` is their common part.
-/

namespace Daybook

/-- A selection of vouchers by date. -/
structure DateRange where
  first? : Option Date
  last? : Option Date
  undated : Bool
  undatedOnly : Bool
  deriving DecidableEq

namespace DateRange

/-! ### Ranges -/

/-- Every dated voucher. -/
def dated : DateRange := ⟨none, none, false, false⟩

/-- Every voucher. -/
def unconstrained : DateRange := ⟨none, none, true, false⟩

/-- The undated vouchers. -/
def onlyUndated : DateRange := ⟨none, none, true, true⟩

def between (first last : Date) : DateRange := ⟨some first, some last, false, false⟩

def since (first : Date) : DateRange := ⟨some first, none, false, false⟩

def upTo (last : Date) : DateRange := ⟨none, some last, false, false⟩

/-- No voucher: the range begins after it ends. -/
def empty : DateRange := ⟨some Date.last, some Date.first, false, false⟩

/-- The range together with the undated vouchers. -/
def withUndated (r : DateRange) : DateRange := { r with undated := true }

/-! ### Membership -/

/-- Whether a day is not before an optional bound. -/
def notBefore (d : Date) : Option Date → Bool
  | some s => decide (s ≤ d)
  | none   => true

/-- Whether a day is not after an optional bound. -/
def notAfter (d : Date) : Option Date → Bool
  | some e => decide (d ≤ e)
  | none   => true

/-- Whether a voucher with this date belongs to the range. -/
def contains (r : DateRange) : Option Date → Bool
  | none   => r.undated || r.undatedOnly
  | some d => !r.undatedOnly && notBefore d r.first? && notAfter d r.last?

/-- Whether the range is written as the one of every voucher. -/
def isUnconstrained (r : DateRange) : Bool :=
  r.first?.isNone && r.last?.isNone && r.undated && !r.undatedOnly

/-- Whether no voucher can belong to the range. -/
def isEmpty (r : DateRange) : Bool :=
  if r.undatedOnly then false
  else match r.first?, r.last? with
    | some s, some e => decide (e < s) && !r.undated
    | _, _           => false

/-! ### Combinations -/

/-- The smaller of two lower bounds; no bound if one is open. -/
def hullStart : Option Date → Option Date → Option Date
  | some a, some b => some (min a b)
  | _, _           => none

/-- The larger of two upper bounds; no bound if one is open. -/
def hullEnd : Option Date → Option Date → Option Date
  | some a, some b => some (max a b)
  | _, _           => none

/-- A range that covers both. A range of undated vouchers adds no bounds. -/
def hull (r s : DateRange) : DateRange :=
  if r.undatedOnly then s.withUndated
  else if s.undatedOnly then r.withUndated
  else ⟨hullStart r.first? s.first?, hullEnd r.last? s.last?, r.undated || s.undated, false⟩

def meetStart : Option Date → Option Date → Option Date
  | some a, some b => some (max a b)
  | some a, none   => some a
  | none, b        => b

def meetEnd : Option Date → Option Date → Option Date
  | some a, some b => some (min a b)
  | some a, none   => some a
  | none, b        => b

def intersect (r s : DateRange) : DateRange :=
  let undated := r.contains none && s.contains none
  let undatedOnly := r.undatedOnly || s.undatedOnly
  if undatedOnly && !undated then empty
  else ⟨meetStart r.first? s.first?, meetEnd r.last? s.last?, undated, undatedOnly⟩

/-- A range that covers all of the given ones; the empty range if there are none. -/
def hullAll : List DateRange → DateRange
  | []      => empty
  | r :: rs => rs.foldl hull r

@[simp] theorem contains_unconstrained (d : Option Date) : unconstrained.contains d = true := by
  cases d <;> rfl

end DateRange

/-! ### Documents -/

instance : ToJson DateRange where
  toJson r := .obj [("start", toJson r.first?), ("end", toJson r.last?),
    ("nullable", toJson r.undated), ("null_only", toJson r.undatedOnly)]

instance : FromJson DateRange where
  fromJson? j := do
    let r ← Record.of? ["start", "end", "nullable", "null_only"] j
    some {
      first? := ← r.withDefault "start" none
      last? := ← r.withDefault "end" none
      undated := ← r.withDefault "nullable" false
      undatedOnly := ← r.withDefault "null_only" false }

end Daybook
