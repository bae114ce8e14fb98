import Daybook.Calendar.DateRange
import Daybook.Query.Filter

/-!
# Filter trees

A `FilterTree` combines criteria on entries by the operations of sets and by a quantifier over the
entries of a voucher. `FilterTree.accepts` is its meaning.

Two coarser readings save work. `FilterTree.mayAccept` looks at the voucher alone, and
`FilterTree.dateHint` only at its date; neither refuses a voucher with an accepted entry.
-/

namespace Daybook

/-- Criteria on an entry, on its voucher and on the date, all at once. -/
structure Criteria where
  entry : EntryFilter
  voucher : VoucherFilter
  range? : Option DateRange

/-- Whether a date is in a range, if there is one. -/
def inRange (range? : Option DateRange) (date? : Option Date) : Bool := range?.all (·.contains date?)

namespace Criteria

def any : Criteria := ⟨.any, .any, none⟩

/-- Whether the voucher around the entry is as asked. -/
def acceptsVoucher (c : Criteria) (v : Voucher) : Bool :=
  inRange c.range? v.date? && c.voucher.accepts v

/-- Whether an entry of a voucher is as asked. -/
def accepts (c : Criteria) (e : Entry) (v : Voucher) : Bool :=
  c.entry.accepts e && c.acceptsVoucher v

def same (c d : Criteria) : Bool :=
  c.entry.same d.entry && c.voucher == d.voucher && c.range? == d.range?

end Criteria

/-- A set of entries, built from criteria. -/
inductive FilterTree where
  | atom (criteria : Criteria)
  | union (operands : List FilterTree)
  | intersect (operands : List FilterTree)
  | subtract (left right : FilterTree)
  | complement (operand : FilterTree)
  | forAll (predicate : FilterTree)
  | forAllIn (domain predicate : FilterTree)

namespace FilterTree

/-! ### Shapes that are often needed -/

def all : FilterTree := .atom .any

def entries (f : EntryFilter) : FilterTree := .atom { Criteria.any with entry := f }

/-- The entries of the vouchers in a range. -/
def during (range : DateRange) : FilterTree := .atom { Criteria.any with range? := some range }

/-! ### Meaning -/

mutual

/-- Whether an entry of a voucher belongs to the set. -/
def accepts : FilterTree → Entry → Voucher → Bool
  | atom c,                   e, v => c.accepts e v
  | union ts,                 e, v => anyAccepts ts e v
  | intersect ts,             e, v => allAccept ts e v
  | subtract left right,      e, v => left.accepts e v && !right.accepts e v
  | complement t,             e, v => !t.accepts e v
  | forAll predicate,         _, v => v.entries.all fun e => predicate.accepts e v
  | forAllIn domain predicate, _, v =>
    v.entries.all fun e => !domain.accepts e v || predicate.accepts e v

/-- Whether an entry belongs to one of several sets. -/
def anyAccepts : List FilterTree → Entry → Voucher → Bool
  | [],      _, _ => false
  | t :: ts, e, v => t.accepts e v || anyAccepts ts e v

/-- Whether an entry belongs to each of several sets. -/
def allAccept : List FilterTree → Entry → Voucher → Bool
  | [],      _, _ => true
  | t :: ts, e, v => t.accepts e v && allAccept ts e v

end

mutual

/-- Whether some entry of a voucher could belong to the set. -/
def mayAccept : FilterTree → Voucher → Bool
  | atom c,          v => c.acceptsVoucher v && v.entries.any c.entry.accepts
  | union ts,        v => anyMayAccept ts v
  | intersect ts,    v => allMayAccept ts v
  | subtract left _, v => left.mayAccept v
  | complement _,    _ => true
  | forAll _,        _ => true
  | forAllIn _ _,    _ => true

/-- Whether some entry could belong to one of several sets. -/
def anyMayAccept : List FilterTree → Voucher → Bool
  | [],      _ => false
  | t :: ts, v => t.mayAccept v || anyMayAccept ts v

/-- Whether some entry could belong to each of several sets. -/
def allMayAccept : List FilterTree → Voucher → Bool
  | [],      _ => true
  | t :: ts, v => t.mayAccept v && allMayAccept ts v

end

mutual

/-- A range that holds the dates of all vouchers with an entry in the set. -/
def dateHint : FilterTree → DateRange
  | atom c          => c.range?.getD .unconstrained
  | union ts        => .hullAll (dateHints ts)
  | intersect ts    => (dateHints ts).foldl .intersect .unconstrained
  | subtract left _ => left.dateHint
  | complement _    => .unconstrained
  | forAll _        => .unconstrained
  | forAllIn _ _    => .unconstrained

def dateHints : List FilterTree → List DateRange
  | []      => []
  | t :: ts => t.dateHint :: dateHints ts

end

/-- The positions of a voucher's entries in the set, with the entries. -/
def positions (t : FilterTree) (v : Voucher) : List Nat :=
  (v.entries.zipIdx.filter fun (e, _) => t.accepts e v).map (·.2)

/-! ### Comparison -/

mutual

/-- Whether two trees are built alike from criteria that ask the same. -/
def same : FilterTree → FilterTree → Bool
  | atom c,        atom d        => c.same d
  | union ts,      union us      => sameAll ts us
  | intersect ts,  intersect us  => sameAll ts us
  | subtract a b,  subtract c d  => a.same c && b.same d
  | complement t,  complement u  => t.same u
  | forAll p,      forAll q      => p.same q
  | forAllIn d p,  forAllIn e q  => d.same e && p.same q
  | _,             _             => false

/-- Whether two lists of trees are alike, one by one. -/
def sameAll : List FilterTree → List FilterTree → Bool
  | [],      []      => true
  | t :: ts, u :: us => t.same u && sameAll ts us
  | _,       _       => false

end

/-! ### Lists of operands -/

theorem anyAccepts_eq (ts : List FilterTree) (e : Entry) (v : Voucher) :
    anyAccepts ts e v = ts.any fun t => t.accepts e v := by
  induction ts with
  | nil => simp [anyAccepts]
  | cons t ts ih => simp [anyAccepts, ih]

theorem allAccept_eq (ts : List FilterTree) (e : Entry) (v : Voucher) :
    allAccept ts e v = ts.all fun t => t.accepts e v := by
  induction ts with
  | nil => simp [allAccept]
  | cons t ts ih => simp [allAccept, ih]

theorem anyMayAccept_eq (ts : List FilterTree) (v : Voucher) :
    anyMayAccept ts v = ts.any fun t => t.mayAccept v := by
  induction ts with
  | nil => simp [anyMayAccept]
  | cons t ts ih => simp [anyMayAccept, ih]

theorem allMayAccept_eq (ts : List FilterTree) (v : Voucher) :
    allMayAccept ts v = ts.all fun t => t.mayAccept v := by
  induction ts with
  | nil => simp [allMayAccept]
  | cons t ts ih => simp [allMayAccept, ih]

theorem dateHints_eq (ts : List FilterTree) : dateHints ts = ts.map dateHint := by
  induction ts with
  | nil => simp [dateHints]
  | cons t ts ih => simp [dateHints, ih]

end FilterTree

end Daybook
