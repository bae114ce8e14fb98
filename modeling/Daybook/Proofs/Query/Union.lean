import Daybook.Proofs.Calendar.DateRange
import Daybook.Proofs.Outcome
import Daybook.Template.Resolution

/-!
# Queries as one tree

A resolved query is the union of its leaves, each with a range of its own. As one tree, the range of a leaf
becomes one more condition of the leaf's tree (`ResolvedLeaf.toTree`). Nothing is gained or lost by that: the
tree of a query accepts what some leaf accepts, and has the hint of the query (`filterTree_agrees`).
-/

namespace Daybook

variable {q : ResolvedQuery} {t : FilterTree}

/-! ### Leaves -/

namespace FilterTree

@[simp] lemma accepts_during (range : DateRange) (e : Entry) (v : Voucher) :
    (during range).accepts e v = range.contains v.date? := by
  simp [during, accepts, Criteria.accepts, Criteria.acceptsVoucher, Criteria.any, inRange]

@[simp] lemma dateHint_during (range : DateRange) : (during range).dateHint = range := by
  simp [during, dateHint]

end FilterTree

namespace ResolvedLeaf

lemma accepts_toTree (leaf : ResolvedLeaf) (e : Entry) (v : Voucher) :
    leaf.toTree.accepts e v = leaf.accepts e v := by
  rw [toTree, accepts]
  cases leaf.range? with
  | none => simp [inRange]
  | some range =>
    simp [FilterTree.accepts, FilterTree.allAccept_eq, inRange, Bool.and_comm]

lemma dateHint_toTree (leaf : ResolvedLeaf) : leaf.toTree.dateHint = leaf.dateHint := by
  rw [toTree, dateHint]
  cases leaf.range? with
  | none => rfl
  | some range =>
    simp [FilterTree.dateHint, FilterTree.dateHints_eq, DateRange.unconstrained_intersect]

end ResolvedLeaf

/-! ### Queries -/

namespace ResolvedQuery

lemma filterTree_of_nil (h : q.leaves = []) : q.filterTree = .error (.arity .union 0) := by
  rw [filterTree, h]
  rfl

lemma exists_filterTree (h : q.leaves ≠ []) : ∃ t, q.filterTree = .ok t := by
  obtain ⟨leaves⟩ := q
  match leaves, h with
  | [leaf], _      => exact ⟨_, rfl⟩
  | _ :: _ :: _, _ => exact ⟨_, rfl⟩

/-- A single leaf is the tree of its own; several ones are the operands of a union. -/
lemma filterTree_eq_ok (h : q.filterTree = .ok t) :
    (∃ leaf, q.leaves = [leaf] ∧ t = leaf.toTree) ∨ t = .union (q.leaves.map (·.toTree)) := by
  obtain ⟨leaves⟩ := q
  match leaves, h with
  | [leaf], h =>
    cases h
    exact .inl ⟨leaf, rfl, rfl⟩
  | _ :: _ :: _, h =>
    cases h
    exact .inr rfl

lemma accepts_of_filterTree (h : q.filterTree = .ok t) (e : Entry) (v : Voucher) :
    t.accepts e v = q.leaves.any fun leaf => leaf.accepts e v := by
  rcases filterTree_eq_ok h with ⟨leaf, hleaf, rfl⟩ | rfl
  · rw [hleaf, leaf.accepts_toTree, List.any_cons, List.any_nil, Bool.or_false]
  · rw [FilterTree.accepts, FilterTree.anyAccepts_eq, List.any_map]
    simp only [Function.comp_def, ResolvedLeaf.accepts_toTree]

/-- The hints are hulls of the same ranges in the same order, so they are the same range. -/
lemma dateHint_of_filterTree (h : q.filterTree = .ok t) : t.dateHint = q.dateHint := by
  rcases filterTree_eq_ok h with ⟨leaf, hleaf, rfl⟩ | rfl
  · rw [leaf.dateHint_toTree, dateHint, hleaf]
    rfl
  · rw [FilterTree.dateHint, FilterTree.dateHints_eq, dateHint, List.map_map]
    simp only [Function.comp_def, ResolvedLeaf.dateHint_toTree]

end ResolvedQuery

/-- A query without leaves is no tree, because a union needs an operand. Every other query is a tree: it
accepts what one of the leaves accepts, range included, and its hint holds the same dates as the hint of the
query. -/
theorem filterTree_agrees (q : ResolvedQuery) :
    ((∃ combinator found, q.filterTree = .error (.arity combinator found)) ↔ q.leaves = []) ∧
    (q.leaves = [] ∨ ∃ t, q.filterTree = .ok t ∧
      (∀ e v, t.accepts e v = q.leaves.any fun leaf => leaf.accepts e v) ∧
      ∀ date?, t.dateHint.contains date? = q.dateHint.contains date?) := by
  by_cases h : q.leaves = []
  · -- without leaves nothing but the error is claimed
    exact ⟨⟨fun _ => h, fun _ => ⟨_, _, q.filterTree_of_nil h⟩⟩, .inl h⟩
  · obtain ⟨t, ht⟩ := q.exists_filterTree h
    refine ⟨⟨?_, fun empty => absurd empty h⟩, .inr ⟨t, ht, q.accepts_of_filterTree ht, fun date? => ?_⟩⟩
    · rintro ⟨combinator, found, failed⟩
      exact absurd failed (ne_error_of_eq_ok ht _)
    · rw [q.dateHint_of_filterTree ht]

end Daybook
