import Daybook.Proofs.Report.Balance
import Daybook.Proofs.Report.Refinement
import Daybook.Proofs.Report.SameValues

/-!
# The order of arrival

Groups come up in the order in which postings arrive, and amounts are added up in that order. Once the groups
are sorted and nothing has been rounded, nothing of it is left: vouchers and leaves of the query may come in
any order (`subtotal_perm`). Only the entries that a group lists are listed in another order.
-/

namespace Daybook

variable {days? : Option (Date × Date)} {n : ℕ} {ps qs : List Posting}

/-- The groups have the same keys in the same places, equal numbers there, and list the same entries, each
as often. -/
inductive Group.SameContent : Group → Group → Prop
  | mk {key : GroupKey} {total total' : Decimal} {children children' : List Group}
      {entries entries' : List EntryRef} {series? series?' : Option DaySeries}
      (total_eq : total.value = total'.value)
      (parts : List.Forall₂ SameContent children children')
      (entries_perm : entries.Perm entries')
      (series_eq : series?.map DaySeries.values = series?'.map DaySeries.values) :
      SameContent (.mk key total none children entries series?)
        (.mk key total' none children' entries' series?')

namespace Group

variable {g g' : Group}

lemma SameContent.value_total (h : g.SameContent g') : g.total.value = g'.total.value := by
  cases h with
  | mk total_eq => exact total_eq

/-- Without loss, the order of the postings does not matter to a sorted report. -/
theorem Reports.sameContent (hdays : ∀ first last, days? = some (first, last) → first ≤ last)
    (hperm : ps.Perm qs) (h : Reports .lossless days? .sorted n ps g)
    (h' : Reports .lossless days? .sorted n qs g') (hkey : g.key = g'.key) : g.SameContent g' := by
  refine Reports.related Posting.followed_perm hdays ?_ ?_ hperm h h' hkey
  · intro ps qs key total total' series? series?' hperm htotal hseries
    exact .mk (by rw [htotal, one_mul]) .nil (hperm.filterMap _)
      (by rw [hseries, DaySeries.valuesTimes_one])
  · intro key total total' children children' series? series?' htotal parts hseries
    exact .mk (by rw [htotal, one_mul]) parts .nil (by rw [hseries, DaySeries.valuesTimes_one])

theorem SameContent.prune : ∀ {g g' : Group}, g.SameContent g' → g.prune.SameContent g'.prune
  | .mk .., _, .mk total_eq parts entries_perm series_eq => by
    rw [Group.prune, Group.prune]
    exact .mk total_eq (forall₂_pruneAll parts value_total fun c _ _ hc => hc.prune) entries_perm
      series_eq

end Group

/-- A sorted report does not depend on the order in which the vouchers arrive, nor on the order in which the
leaves of the query stand: if both runs get along without rounding, the trees have the same keys in the same
places, equal numbers, and the same entries listed. -/
theorem subtotal_perm {vs vs' : List Voucher} {query query' : ResolvedQuery} {spec : ReportSpec}
    (hvs : vs.Perm vs') (hleaves : query.leaves.Perm query'.leaves) (sorted : spec.order = .sorted)
    (fits : ∀ o, subtotal .lossless (vs.map .ok) query spec ≠ .error (.overflow o))
    (fits' : ∀ o, subtotal .lossless (vs'.map .ok) query' spec ≠ .error (.overflow o)) :
    SameOutcome (fun s s' => s.levels = s'.levels ∧ s.aggregation = s'.aggregation ∧
        s.root.SameContent s'.root)
      (subtotal .rounding (vs.map .ok) query spec) (subtotal .rounding (vs'.map .ok) query' spec) := by
  cases hdays : spec.span? with
  | error e =>
    simp only [subtotal, hdays]
    exact .error _
  | ok days? =>
    obtain ⟨s, hs⟩ := exists_subtotal_of_no_overflow hdays fits
    obtain ⟨s', hs'⟩ := exists_subtotal_of_no_overflow hdays fits'
    have rounds := subtotal_confirmed Arithmetic.lossless_refines_rounding
    rw [rounds _ query spec hs, rounds _ query' spec hs']
    obtain ⟨ps, g, hps, _, reports, hroot, rfl⟩ := reports_of_subtotal hdays hs
    obtain ⟨qs, g', hqs, _, reports', hroot', rfl⟩ := reports_of_subtotal hdays hs'
    rw [VoucherStream.delivered_ok] at hps hqs
    obtain ⟨ps', hps', hperm⟩ := postings_of_perm hleaves hvs hqs
    obtain rfl := Except.ok.inj (hps.symm.trans hps')
    rw [sorted] at reports reports'
    have content := reports.sameContent (ReportSpec.le_of_span? hdays) hperm reports'
      (hroot.trans hroot'.symm)
    refine .ok ⟨rfl, rfl, ?_⟩
    dsimp only
    split
    · exact content.prune
    · exact content

/-- All entries, and a tenth of them on top. -/
def tenthOnTop : ResolvedQuery := ⟨[⟨.all, .one, none, ["all"]⟩, ⟨.all, .tenth, none, ["tenth"]⟩]⟩

/-- The same, the tenth first. -/
def tenthFirst : ResolvedQuery := ⟨tenthOnTop.leaves.reverse⟩

/-- Running balances around the end of January by account, in order and with listings. -/
def listedTurnOfMonth : ReportSpec := ⟨[.account], .everyDay, turnOfMonth.range?, .sorted, true⟩

/-- A sale and a deposit may arrive the other way round, and the tenth of them before they do. -/
theorem tenthOnTop_perm :
    [Voucher.sale, .deposit].Perm [.deposit, .sale] ∧ tenthOnTop.leaves.Perm tenthFirst.leaves ∧
    listedTurnOfMonth.order = .sorted ∧
    (∀ o, subtotal .lossless ([.sale, .deposit].map .ok) tenthOnTop listedTurnOfMonth
      ≠ .error (.overflow o)) ∧
    (∀ o, subtotal .lossless ([.deposit, .sale].map .ok) tenthFirst listedTurnOfMonth
      ≠ .error (.overflow o)) ∧
    ∃ s s', subtotal .rounding ([.sale, .deposit].map .ok) tenthOnTop listedTurnOfMonth = .ok s ∧
      subtotal .rounding ([.deposit, .sale].map .ok) tenthFirst listedTurnOfMonth = .ok s' ∧
      s.root.SameContent s'.root := by
  have hvs : [Voucher.sale, .deposit].Perm [.deposit, .sale] := .swap ..
  have hleaves : tenthOnTop.leaves.Perm tenthFirst.leaves := (List.reverse_perm _).symm
  have fits : ∀ o, subtotal .lossless ([.sale, .deposit].map .ok) tenthOnTop listedTurnOfMonth
      ≠ .error (.overflow o) := fun o => ne_error_of_isOk (by decide +kernel) _
  have fits' : ∀ o, subtotal .lossless ([.deposit, .sale].map .ok) tenthFirst listedTurnOfMonth
      ≠ .error (.overflow o) := fun o => ne_error_of_isOk (by decide +kernel) _
  refine ⟨hvs, hleaves, rfl, fits, fits', ?_⟩
  have outcome := subtotal_perm hvs hleaves rfl fits fits'
  have hdays : listedTurnOfMonth.span? = .ok (some (.january30, .february1)) := rfl
  obtain ⟨s, hs⟩ := exists_subtotal_of_no_overflow hdays fits
  obtain ⟨s', hs'⟩ := exists_subtotal_of_no_overflow hdays fits'
  have rounds := subtotal_confirmed Arithmetic.lossless_refines_rounding
  rw [rounds _ _ _ hs, rounds _ _ _ hs'] at outcome
  cases outcome with
  | ok h => exact ⟨s, s', rounds _ _ _ hs, rounds _ _ _ hs', h.2.2⟩

end Daybook
