import Daybook.Proofs.Decimal.Lossless
import Daybook.Report.Subtotal

/-!
# Reports with a finer arithmetic

A report that is there under one arithmetic is there under every other one that has all of its results,
and it is the same (`subtotal_confirmed`). So a report that can be made without loss is the one that is
made with rounding.
-/

namespace Daybook

variable {A B : Arithmetic}

/-! ### Totals by day -/

namespace DailyTotals

lemma addChange_confirmed (h : A.Refines B) (date : Date) (amount : Decimal)
    (changes : List (Date × Decimal)) :
    ConfirmedBy (addChange A date amount changes) (addChange B date amount changes) := by
  induction changes with
  | nil => exact (h.add _ _).bind fun _ => .refl _
  | cons change changes ih =>
    rw [addChange, addChange]
    split
    · exact ih.bind fun _ => .refl _
    · split
      · exact (h.add _ _).bind fun _ => .refl _
      · exact (h.add _ _).bind fun _ => .refl _

lemma add_confirmed (h : A.Refines B) (t : DailyTotals) (date? : Option Date) (amount : Decimal) :
    ConfirmedBy (t.add A date? amount) (t.add B date? amount) := by
  unfold add
  cases date? with
  | none => exact (h.add _ _).bind fun _ => .refl _
  | some date =>
    dsimp only
    split
    · exact .refl _
    · split
      · exact (addChange_confirmed h _ _ _).bind fun _ => .refl _
      · exact (h.add _ _).bind fun _ => .refl _

lemma total_confirmed (h : A.Refines B) (t : DailyTotals) :
    ConfirmedBy (t.total A) (t.total B) :=
  (Arithmetic.sum_confirmed h _).bind fun _ => h.add _ _

lemma step_confirmed (h : A.Refines B) (w : RunningBalance) :
    ConfirmedBy (w.step A) (w.step B) := by
  unfold RunningBalance.step
  cases w.next? with
  | none => exact .refl _
  | some date =>
    have after : ConfirmedBy (w.balanceAfter A date) (w.balanceAfter B date) := by
      unfold RunningBalance.balanceAfter
      cases w.totals.change? date with
      | none => exact .refl _
      | some amount => exact h.add _ _
    exact after.bind fun _ => .refl _

lemma take_confirmed (h : A.Refines B) (w : RunningBalance) (count : ℕ) :
    ConfirmedBy (w.take A count) (w.take B count) := by
  induction count generalizing w with
  | zero => exact .refl _
  | succ count ih =>
    refine (step_confirmed h w).bind fun next => ?_
    cases next with
    | none => exact .refl _
    | some next => exact (ih next.2).bind fun _ => .refl _

lemma series_confirmed (h : A.Refines B) (t : DailyTotals) :
    ConfirmedBy (t.series A) (t.series B) :=
  (take_confirmed h _ _).bind fun _ => .refl _

end DailyTotals

lemma Tally.add_confirmed (h : A.Refines B) (date? : Option Date) (amount : Decimal) (t : Tally) :
    ConfirmedBy (t.add A date? amount) (t.add B date? amount) := by
  cases t with
  | total sum => exact (h.add _ _).bind fun _ => .refl _
  | daily totals => exact (totals.add_confirmed h date? amount).bind fun _ => .refl _

/-! ### Buckets -/

namespace Bucket

lemma updateChild_confirmed (span? : Option (Date × Date)) (key : GroupKey)
    {change change' : Bucket → Except Overflow Bucket}
    (h : ∀ b, ConfirmedBy (change b) (change' b)) (bs : List Bucket) :
    ConfirmedBy (updateChild span? key change bs) (updateChild span? key change' bs) := by
  induction bs with
  | nil => exact (h _).bind fun _ => .refl _
  | cons b bs ih =>
    rw [updateChild, updateChild]
    split
    · exact (h b).bind fun _ => .refl _
    · exact ih.bind fun _ => .refl _

lemma insert_confirmed (h : A.Refines B) (span? : Option (Date × Date)) (date? : Option Date)
    (amount : Decimal) (listed? : Option EntryRef) (path : List GroupKey) (b : Bucket) :
    ConfirmedBy (b.insert A span? date? amount listed? path)
      (b.insert B span? date? amount listed? path) := by
  induction path generalizing b with
  | nil =>
    obtain ⟨key, tally, entries, children⟩ := b
    exact (tally.add_confirmed h date? amount).bind fun _ => .refl _
  | cons next path ih =>
    obtain ⟨key, tally, entries, children⟩ := b
    refine (tally.add_confirmed h date? amount).bind fun _ => ?_
    exact (updateChild_confirmed span? next ih children).bind fun _ => .refl _

lemma collect_confirmed (h : A.Refines B) (spec : ReportSpec) (span? : Option (Date × Date))
    (v : Voucher) (root : Bucket) (s : Selected) :
    ConfirmedBy (root.collect A spec span? v s) (root.collect B spec span? v s) := by
  have amount : ConfirmedBy (s.amount A spec.aggregation) (s.amount B spec.aggregation) := by
    unfold Selected.amount
    split
    · exact .refl _
    · exact h.mul _ _
  exact amount.bind fun _ => insert_confirmed h _ _ _ _ _ _

lemma collectVoucher_confirmed (h : A.Refines B) (spec : ReportSpec) (span? : Option (Date × Date))
    (query : ResolvedQuery) (root : Bucket) (v : Voucher) :
    ConfirmedBy (root.collectVoucher A spec span? query v)
      (root.collectVoucher B spec span? query v) := by
  unfold collectVoucher
  split
  · exact .foldlM (collect_confirmed h spec span? v) _ _
  · exact .refl _

lemma collectStream_confirmed (h : A.Refines B) (spec : ReportSpec) (span? : Option (Date × Date))
    (query : ResolvedQuery) (root : Bucket) (stream : VoucherStream) :
    ConfirmedBy (root.collectStream A spec span? query stream)
      (root.collectStream B spec span? query stream) := by
  induction stream generalizing root with
  | nil => exact .refl _
  | cons item stream ih =>
    cases item with
    | error e => exact .refl _
    | ok v => exact (collectVoucher_confirmed h spec span? query root v).lift.bind ih

lemma conclude_confirmed (h : A.Refines B) (isLeaf : Bool) (t : Tally) :
    ConfirmedBy (conclude A isLeaf t) (conclude B isLeaf t) := by
  cases t with
  | total sum => exact .refl _
  | daily totals =>
    have total := totals.total_confirmed h
    cases isLeaf with
    | false => exact total.bind fun _ => .refl _
    | true =>
      have series : ConfirmedBy (some <$> totals.series A) (some <$> totals.series B) :=
        (totals.series_confirmed h).bind fun _ => .refl _
      exact series.bind fun _ => total.bind fun _ => .refl _

mutual

theorem finish_confirmed (h : A.Refines B) (order : GroupOrder) :
    ∀ b : Bucket, ConfirmedBy (b.finish A order) (b.finish B order)
  | .mk key tally entries children => by
    rw [finish, finish]
    refine (finishAll_confirmed h order children).bind fun groups => ?_
    exact (conclude_confirmed h groups.isEmpty tally).bind fun _ => .refl _

theorem finishAll_confirmed (h : A.Refines B) (order : GroupOrder) :
    ∀ bs : List Bucket, ConfirmedBy (finishAll A order bs) (finishAll B order bs)
  | [] => .refl _
  | b :: bs => by
    rw [finishAll, finishAll]
    refine (finish_confirmed h order b).bind fun _ => ?_
    exact (finishAll_confirmed h order bs).bind fun _ => .refl _

end

end Bucket

/-! ### Reports -/

theorem subtotal_confirmed (h : A.Refines B) (stream : VoucherStream) (query : ResolvedQuery)
    (spec : ReportSpec) :
    ConfirmedBy (subtotal A stream query spec) (subtotal B stream query spec) := by
  unfold subtotal
  cases spec.span? with
  | error e => exact .refl _
  | ok span? =>
    refine (Bucket.collectStream_confirmed h spec span? query _ stream).bind fun root => ?_
    exact ((Bucket.finish_confirmed h spec.order root).bind fun _ => .refl _).lift

end Daybook
