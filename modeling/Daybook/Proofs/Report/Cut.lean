import Daybook.Proofs.Report.Pruning

/-!
# Groups that are cut

A report that leaves out zeros is the report of sums with some groups cut (`subtotal_cut`). A group
stays if it and all groups on the way to it come to more than half a unit of the eighth place. What
stays is as it was, and in the same order; only parts may be missing.

`Group.ways` lists all groups of a tree, depth first, each with the groups on the way to it. So it
says everything about the tree even if the groups are looked at without their parts (`Group.alone`).
-/

namespace Daybook

variable {A : Arithmetic} {stream : VoucherStream} {query : ResolvedQuery} {spec : ReportSpec}
  {span? : Option (Date × Date)}

namespace Group

/-! ### Ways -/

mutual

/-- The ways to all groups of a tree, from the first group below the whole on, depth first. No group
is on the way to the whole. -/
def ways : Group → List (List Group)
  | mk _ _ _ children _ _ => [] :: waysAll children

/-- The ways to several groups and to all groups below them. -/
def waysAll : List Group → List (List Group)
  | []      => []
  | g :: gs => (ways g).map (g :: ·) ++ waysAll gs

end

/-- The group without its parts. -/
def alone (g : Group) : Group := mk g.key g.total g.converted? [] g.entries g.series?

/-- The total is more than half a unit of the eighth place, above zero or below. -/
def Counts (g : Group) : Prop := 5 / 10 ^ 9 < |g.total.value|

instance : DecidablePred Counts := fun _ => inferInstanceAs (Decidable (_ < _))

/-! ### Pruned trees -/

/-- Rounding takes away just what does not count. -/
lemma vanishes_iff {g : Group} : g.total.vanishesAt zeroPlaces = true ↔ ¬ g.Counts := by
  rw [Decimal.vanishesAt_iff, zeroPlaces, Counts, not_lt, le_div_iff₀ (by positivity)]
  constructor <;> intro h <;> linarith

lemma alone_prune (g : Group) : g.prune.alone = g.alone := by
  cases g
  rw [prune]
  rfl

mutual

/-- Pruning leaves the ways on which every group counts. -/
lemma ways_prune : ∀ g : Group, g.prune.ways.map (·.map alone)
    = (g.ways.filter fun way => ∀ h ∈ way, h.Counts).map (·.map alone)
  | mk key total converted? children entries series? => by
    rw [prune, ways, ways, List.map_cons, List.filter_cons_of_pos (by simp), List.map_cons,
      waysAll_pruneAll children]

lemma waysAll_pruneAll : ∀ gs : List Group, (waysAll (pruneAll gs)).map (·.map alone)
    = ((waysAll gs).filter fun way => ∀ h ∈ way, h.Counts).map (·.map alone)
  | [] => rfl
  | g :: gs => by
    rw [waysAll, List.filter_append, List.map_append, ← waysAll_pruneAll gs, List.filter_map]
    by_cases hcounts : g.Counts
    · -- the group counts, so it decides nothing about the ways through it
      have same : ((fun way => decide (∀ h ∈ way, h.Counts)) ∘ (g :: ·))
          = fun way => decide (∀ h ∈ way, h.Counts) := by
        funext way
        simp [hcounts]
      have first : (g.prune.ways.map (g.prune :: ·)).map (·.map alone)
          = (g.prune.ways.map (·.map alone)).map (g.alone :: ·) := by
        simp [alone_prune]
      rw [pruneAll_cons_of_stays (by rwa [vanishes_iff, not_not]), waysAll, List.map_append, first,
        ways_prune g, same]
      simp
    · -- the group does not count: all ways through it go with it
      have none : ((fun way => decide (∀ h ∈ way, h.Counts)) ∘ (g :: ·)) = fun _ => false := by
        funext way
        simp [hcounts]
      rw [pruneAll_cons_of_vanishes (vanishes_iff.2 hcounts), none]
      simp

end

end Group

/-! ### Reports of sums and reports without zeros -/

/-- Zeros are left out at the end, not while amounts are collected. -/
lemma Bucket.collectStream_nonZero (root : Bucket) :
    root.collectStream A { spec with aggregation := .nonZero } span? query stream
      = root.collectStream A { spec with aggregation := .sum } span? query stream := by
  induction stream generalizing root with
  | nil => rfl
  | cons first stream ih =>
    cases first with
    | error e => rfl
    | ok v =>
      rw [collectStream, collectStream]
      exact bind_congr fun root => ih root

/-- A report without zeros is the report of sums, pruned. -/
lemma subtotal_nonZero_eq (A : Arithmetic) (stream : VoucherStream) (query : ResolvedQuery)
    (spec : ReportSpec) :
    subtotal A stream query { spec with aggregation := .nonZero }
      = (fun s => ⟨s.levels, .nonZero, s.root.prune⟩) <$>
        subtotal A stream query { spec with aggregation := .sum } := by
  simp only [subtotal, ReportSpec.span?, reduceCtorEq, if_false, Bucket.collectStream_nonZero]
  cases (Bucket.empty none .root).collectStream A { spec with aggregation := .sum } none query stream with
  | error e => rfl
  | ok root =>
    simp only [ok_bind, ReportSpec.finish]
    cases root.finish A spec.order <;> rfl

/-- One report is the other without the groups that are not worth counting, and without what is below
them. -/
structure Cut (s s' : Subtotal) : Prop where
  levels_eq : s'.levels = s.levels
  root_eq : s'.root.alone = s.root.alone
  ways_eq : s'.root.ways.map (·.map Group.alone)
    = (s.root.ways.filter fun way => ∀ g ∈ way, g.Counts).map (·.map Group.alone)

/-- The report without zeros fails as the report of sums does, or it is that report with just those
groups cut that do not count, or that are below one that does not. The whole is never cut. -/
theorem subtotal_cut (A : Arithmetic) (stream : VoucherStream) (query : ResolvedQuery) (spec : ReportSpec) :
    SameOutcome Cut (subtotal A stream query { spec with aggregation := .sum })
      (subtotal A stream query { spec with aggregation := .nonZero }) := by
  rw [subtotal_nonZero_eq]
  cases subtotal A stream query { spec with aggregation := .sum } with
  | error e => exact .error e
  | ok s => exact .ok ⟨rfl, s.root.alone_prune, s.root.ways_prune⟩

end Daybook
