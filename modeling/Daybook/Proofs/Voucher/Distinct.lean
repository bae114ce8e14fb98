import Daybook.Voucher.Basic
import Mathlib

/-!
# Members in the order of their first appearance

`Voucher.distinct` keeps the members of a list, each once (`mem_distinct`, `nodup_distinct`) and in order
(`pairwise_distinct`). A member that comes up at the end of the list is added at the end, if it is new
(`distinct_concat`).
-/

namespace Daybook

namespace Voucher

variable {α β : Type} [DecidableEq α]

@[simp] lemma mem_distinct {xs : List α} {a : α} : a ∈ distinct xs ↔ a ∈ xs := by
  induction xs with
  | nil => simp [distinct]
  | cons x xs ih =>
    by_cases h : a = x <;> simp [distinct, ih, h]

lemma nodup_distinct (xs : List α) : (distinct xs).Nodup := by
  induction xs with
  | nil => simp [distinct]
  | cons x xs ih =>
    rw [distinct, List.nodup_cons]
    exact ⟨by simp, ih.filter _⟩

lemma distinct_concat (xs : List α) (a : α) :
    distinct (xs ++ [a]) = if a ∈ xs then distinct xs else distinct xs ++ [a] := by
  induction xs with
  | nil => simp [distinct]
  | cons x xs ih =>
    simp only [List.cons_append, distinct, ih]
    by_cases hx : a = x
    · subst hx
      split <;> simp [List.filter_append]
    · by_cases ha : a ∈ xs <;> simp [ha, hx, List.filter_append]

/-- The members are kept in the order of their first appearance. -/
lemma pairwise_distinct (xs : List α) :
    (distinct xs).Pairwise fun a b => xs.idxOf a < xs.idxOf b := by
  induction xs with
  | nil => exact .nil
  | cons x xs ih =>
    -- behind the first member, and other than it, all stand one place further
    have later : ∀ b ∈ (distinct xs).filter (· != x), (x :: xs).idxOf b = xs.idxOf b + 1 := by
      intro b hb
      have hne : b ≠ x := by simpa using List.of_mem_filter hb
      exact List.idxOf_cons_ne _ hne.symm
    refine List.pairwise_cons.2 ⟨fun b hb => ?_, (ih.filter _).imp_of_mem fun ha hb h => ?_⟩
    · rw [later b hb, List.idxOf_cons_self]
      exact Nat.succ_pos _
    · rw [later _ ha, later _ hb]
      exact Nat.succ_lt_succ h

/-- There are entries in the currencies of a voucher, and in no other. -/
lemma entriesIn_eq_nil_iff {v : Voucher} {currency : String} :
    v.entriesIn currency = [] ↔ currency ∉ v.currencies := by
  rw [entriesIn, List.filter_eq_nil_iff, currencies, mem_distinct]
  simp

end Voucher

end Daybook
