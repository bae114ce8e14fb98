import Daybook.Proofs.Decimal.Text
import Daybook.Proofs.Outcome
import Daybook.Query.Expr

/-!
# Queries that are the same

Two queries are the same if they are written alike, with amounts of the same value and as many places; a zero
may carry a minus sign in one of them. Such queries come to trees that are the same, or fail with the same
error (`QueryExpr.SameAs.compile`).
-/

namespace Daybook

/-! ### Queries -/

/-- The same criteria, with the same amount. -/
structure CriteriaExpr.SameAs (c c' : CriteriaExpr) : Prop where
  amount : Option.Rel Decimal.SameAs c.amount? c'.amount?
  others_eq : { c with amount? := c'.amount? } = c'

/-- The same combinators in the same places, over the same criteria. -/
inductive QueryExpr.SameAs : QueryExpr → QueryExpr → Prop
  | atom {c c' : CriteriaExpr} (h : c.SameAs c') : SameAs (.atom c) (.atom c')
  | combine (combinator : Combinator) {qs qs' : List QueryExpr} (h : List.Forall₂ SameAs qs qs') :
    SameAs (.combine combinator qs) (.combine combinator qs')

/-- The trees are built alike, from criteria that ask the same. -/
def FilterTree.SameAs (t u : FilterTree) : Prop := t.same u = true

/-! ### Compilation -/

lemma EntryFilter.sameAmount_of_rel {a? b? : Option Decimal} (h : Option.Rel Decimal.SameAs a? b?) :
    sameAmount a? b? = true := by
  cases h with
  | none => rfl
  | some h => exact h.sameValue

lemma CriteriaExpr.SameAs.compile {c c' : CriteriaExpr} (h : c.SameAs c') :
    SameOutcome (fun d d' => d.same d' = true) c.compile c'.compile := by
  obtain ⟨amount, others_eq⟩ := h
  rw [← others_eq]
  refine .bind_left _ fun content => .bind_left _ fun remark => .bind_left _ fun voucherRemark => .ok ?_
  simp [Criteria.same, EntryFilter.same, EntryFilter.sameAmount_of_rel amount]

lemma FilterTree.sameAll_of_forall₂ {ts us : List FilterTree}
    (h : List.Forall₂ FilterTree.SameAs ts us) : sameAll ts us = true := by
  induction h with
  | nil => rfl
  | cons ht _ ih => rw [sameAll, ht, ih, Bool.and_true]

/-- A combinator takes the same operands to the same tree. -/
lemma Combinator.apply_same (c : Combinator) {ts us : List FilterTree}
    (h : List.Forall₂ FilterTree.SameAs ts us) :
    SameOutcome FilterTree.SameAs (c.apply ts) (c.apply us) := by
  have refused : SameOutcome FilterTree.SameAs
      (.error (QueryError.arity c ts.length)) (.error (QueryError.arity c us.length)) := by
    rw [h.length_eq]
    exact .error _
  cases c with
  | union | intersect =>
    cases h with
    | nil => exact refused
    | cons ht h => exact .ok (FilterTree.sameAll_of_forall₂ (.cons ht h))
  | subtract =>
    rcases h with _ | ⟨hleft, _ | ⟨hright, _ | _⟩⟩
    · exact refused
    · exact refused
    · exact .ok (by rw [FilterTree.SameAs, FilterTree.same, hleft, hright, Bool.and_true])
    · exact refused
  | complement =>
    rcases h with _ | ⟨hoperand, _ | _⟩
    · exact refused
    · exact .ok (by rw [FilterTree.SameAs, FilterTree.same, hoperand])
    · exact refused
  | forAll =>
    rcases h with _ | ⟨hfirst, _ | ⟨hsecond, _ | _⟩⟩
    · exact refused
    · exact .ok (by rw [FilterTree.SameAs, FilterTree.same, hfirst])
    · exact .ok (by rw [FilterTree.SameAs, FilterTree.same, hfirst, hsecond, Bool.and_true])
    · exact refused

namespace QueryExpr

mutual

/-- The same query comes to the same tree, or fails in the same way. -/
lemma SameAs.compile {q q' : QueryExpr} (h : q.SameAs q') :
    SameOutcome FilterTree.SameAs q.compile q'.compile := by
  match q, h with
  | .atom _, .atom h =>
    rw [QueryExpr.compile, QueryExpr.compile]
    exact h.compile.bind fun _ _ same => .ok same
  | .combine c _, .combine _ h =>
    rw [QueryExpr.compile, QueryExpr.compile]
    exact (compileAll_same h).bind fun _ _ same => c.apply_same same

lemma compileAll_same {qs qs' : List QueryExpr} (h : List.Forall₂ SameAs qs qs') :
    SameOutcome (List.Forall₂ FilterTree.SameAs) (compileAll qs) (compileAll qs') := by
  match qs, h with
  | [], .nil => exact .ok .nil
  | _ :: _, .cons hq h =>
    rw [compileAll, compileAll]
    exact hq.compile.bind fun _ _ first => (compileAll_same h).bind fun _ _ more => .ok (.cons first more)

end

end QueryExpr

end Daybook
