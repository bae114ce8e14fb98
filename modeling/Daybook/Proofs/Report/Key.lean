import Daybook.Report.Tree
import Mathlib

/-!
# The order of keys

`GroupKey.le` is a total order, so there is one way to put the keys of groups in order.
`GroupKey.arrange` does so if it is asked for, and keeps the keys as they are otherwise.
-/

namespace Daybook

namespace GroupKey

lemma leOption_trans {α : Type} {le : α → α → Bool}
    (trans : ∀ a b c, le a b = true → le b c = true → le a c = true) {a b c : Option α}
    (hab : leOption le a b = true) (hbc : leOption le b c = true) : leOption le a c = true := by
  cases a <;> cases b <;> cases c <;> simp_all [leOption]
  exact trans _ _ _ hab hbc

lemma leOption_total {α : Type} {le : α → α → Bool}
    (total : ∀ a b, (le a b || le b a) = true) (a b : Option α) :
    (leOption le a b || leOption le b a) = true := by
  cases a <;> cases b <;> simp_all [leOption]

lemma leOption_antisymm {α : Type} {le : α → α → Bool}
    (antisymm : ∀ a b, le a b = true → le b a = true → a = b) {a b : Option α}
    (hab : leOption le a b = true) (hba : leOption le b a = true) : a = b := by
  cases a <;> cases b <;> simp_all [leOption]
  exact antisymm _ _ hab hba

/-! ### Forms of keys -/

lemma le_of_rank_lt {a b : GroupKey} (h : a.rank < b.rank) : a.le b = true := by
  cases a <;> cases b <;> simp_all [le, rank]

lemma rank_le_of_le {a b : GroupKey} (h : a.le b = true) : a.rank ≤ b.rank := by
  cases a <;> cases b <;> simp_all [le, rank]

lemma le_trans {a b c : GroupKey} (hab : a.le b = true) (hbc : b.le c = true) :
    a.le c = true := by
  have rab := rank_le_of_le hab
  have rbc := rank_le_of_le hbc
  rcases (rab.trans rbc).lt_or_eq with hlt | heq
  · exact le_of_rank_lt hlt
  -- all three keys are of one form
  have hrab : a.rank = b.rank := by omega
  have hrbc : b.rank = c.rank := by omega
  clear rab rbc heq
  have text : ∀ a b c : String, decide (a ≤ b) = true → decide (b ≤ c) = true →
      decide (a ≤ c) = true := by
    simpa using fun _ _ _ => String.le_trans
  cases a <;> cases b <;> cases hrab <;> cases c <;> cases hrbc
  · rfl
  · exact text _ _ _ hab hbc
  · simp only [le, decide_eq_true_eq] at hab hbc ⊢
    exact UInt32.le_trans hab hbc
  · exact leOption_trans (by simpa using fun _ _ _ => UInt8.le_trans) hab hbc
  · exact leOption_trans text hab hbc
  · exact leOption_trans text hab hbc
  · exact leOption_trans text hab hbc
  · simp only [le, decide_eq_true_eq] at hab hbc ⊢
    exact Nat.le_trans hab hbc
  · exact leOption_trans (by simpa using fun _ _ _ => Date.le_trans) hab hbc

lemma le_total (a b : GroupKey) : (a.le b || b.le a) = true := by
  rcases Nat.lt_trichotomy a.rank b.rank with hlt | heq | hgt
  · rw [le_of_rank_lt hlt, Bool.true_or]
  · -- keys of one form are in the order of what they hold
    have text : ∀ a b : String, (decide (a ≤ b) || decide (b ≤ a)) = true := by
      simpa using String.le_total
    cases a <;> cases b <;> cases heq
    · rfl
    · exact text _ _
    · simpa [le] using UInt32.le_total _ _
    · exact leOption_total (by simpa using UInt8.le_total) _ _
    · exact leOption_total text _ _
    · exact leOption_total text _ _
    · exact leOption_total text _ _
    · simpa [le] using Nat.le_total _ _
    · exact leOption_total (by simpa using Date.le_total) _ _
  · rw [le_of_rank_lt hgt, Bool.or_true]

lemma rank_injective {k l : VoucherKind} (h : k.rank = l.rank) : k = l := by
  cases k <;> cases l <;> simp_all [VoucherKind.rank]

lemma le_antisymm {a b : GroupKey} (hab : a.le b = true) (hba : b.le a = true) : a = b := by
  have hrank : a.rank = b.rank := (rank_le_of_le hab).antisymm (rank_le_of_le hba)
  have text : ∀ a b : String, decide (a ≤ b) = true → decide (b ≤ a) = true → a = b := by
    simpa using fun _ _ => String.le_antisymm
  cases a <;> cases b <;> cases hrank
  · rfl
  · rw [text _ _ hab hba]
  · simp only [le, decide_eq_true_eq] at hab hba
    rw [UInt32.le_antisymm hab hba]
  · rw [leOption_antisymm (by simpa using fun _ _ => UInt8.le_antisymm) hab hba]
  · rw [leOption_antisymm text hab hba]
  · rw [leOption_antisymm text hab hba]
  · rw [leOption_antisymm text hab hba]
  · simp only [le, decide_eq_true_eq] at hab hba
    rw [rank_injective (Nat.le_antisymm hab hba)]
  · rw [leOption_antisymm (by simpa using fun _ _ => Date.le_antisymm) hab hba]

/-! ### Arranged keys -/

/-- Keys in the order that is asked for. -/
def arrange (order : GroupOrder) (keys : List GroupKey) : List GroupKey :=
  match order with
  | .firstSeen => keys
  | .sorted    => keys.mergeSort le

lemma arrange_perm (order : GroupOrder) (keys : List GroupKey) :
    (arrange order keys).Perm keys := by
  cases order with
  | firstSeen => exact .refl _
  | sorted => exact List.mergeSort_perm keys le

@[simp] lemma mem_arrange {order : GroupOrder} {keys : List GroupKey} {key : GroupKey} :
    key ∈ arrange order keys ↔ key ∈ keys :=
  (arrange_perm order keys).mem_iff

lemma pairwise_arrange_sorted (keys : List GroupKey) :
    (arrange .sorted keys).Pairwise fun a b => a.le b = true := by
  have trans : ∀ a b c : GroupKey, a.le b = true → b.le c = true → a.le c = true :=
    fun _ _ _ => le_trans
  exact List.pairwise_mergeSort trans le_total keys

/-- The order of sorted keys does not depend on the order in which they come up. -/
lemma arrange_sorted_of_perm {keys keys' : List GroupKey} (h : keys.Perm keys') :
    arrange .sorted keys = arrange .sorted keys' := by
  refine List.Perm.eq_of_pairwise (fun _ _ _ _ => le_antisymm) (pairwise_arrange_sorted keys)
    (pairwise_arrange_sorted keys') ?_
  exact (arrange_perm _ _).trans (h.trans (arrange_perm _ _).symm)

end GroupKey

end Daybook
