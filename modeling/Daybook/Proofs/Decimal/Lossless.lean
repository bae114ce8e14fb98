import Daybook.Proofs.Decimal.Value
import Daybook.Proofs.Outcome

/-!
# Arithmetic without loss

`Arithmetic.lossless` refuses every result that is not the exact one, so a computation that ends well
under it has met neither rounding nor overflow.

An arithmetic `Refines` another one if the other has all of its results. A computation that ends well
under the finer one then has the same result under the other: see `ConfirmedBy`.
-/

namespace Daybook

/-! ### Refinement -/

namespace Arithmetic

/-- The other arithmetic has all results of this one. -/
structure Refines (A B : Arithmetic) : Prop where
  add : ∀ a b, ConfirmedBy (A.add a b) (B.add a b)
  mul : ∀ a b, ConfirmedBy (A.mul a b) (B.mul a b)

lemma Refines.refl (A : Arithmetic) : A.Refines A :=
  ⟨fun _ _ => .refl _, fun _ _ => .refl _⟩

/-- A result that has the exact value. -/
def keep (exact : ℚ) (operation : Overflow) : Except Overflow Decimal → Except Overflow Decimal
  | .ok c    => if c.value = exact then .ok c else .error operation
  | .error o => .error o

/-- Results that are not exact count as overflow. -/
def lossless : Arithmetic where
  add a b := keep (a.value + b.value) .addition (a.add b)
  mul a b := keep (a.value * b.value) .multiplication (a.mul b)

lemma keep_eq_ok {exact : ℚ} {operation : Overflow} {x : Except Overflow Decimal} {c : Decimal} :
    keep exact operation x = .ok c ↔ x = .ok c ∧ c.value = exact := by
  cases x with
  | error o => simp [keep]
  | ok d =>
    simp only [keep]
    split <;> grind

lemma lossless_add {a b c : Decimal} :
    lossless.add a b = .ok c ↔ a.add b = .ok c ∧ c.value = a.value + b.value :=
  keep_eq_ok

lemma lossless_mul {a b c : Decimal} :
    lossless.mul a b = .ok c ↔ a.mul b = .ok c ∧ c.value = a.value * b.value :=
  keep_eq_ok

lemma lossless_refines_rounding : lossless.Refines rounding :=
  ⟨fun _ _ _ h => (lossless_add.1 h).1, fun _ _ _ h => (lossless_mul.1 h).1⟩

lemma lossless_add_of_representable {a b : Decimal}
    (h : Decimal.Representable (a.value + b.value)) :
    ∃ c, lossless.add a b = .ok c ∧ c.value = a.value + b.value := by
  obtain ⟨c, hc, hv⟩ := Decimal.add_of_representable h
  exact ⟨c, lossless_add.2 ⟨hc, hv⟩, hv⟩

lemma lossless_zero_add (a : Decimal) : lossless.add .zero a = .ok a :=
  lossless_add.2 ⟨Decimal.add_of_isZero_left rfl, by simp⟩

/-! ### Sums -/

variable {A B : Arithmetic}

lemma sum_confirmed (h : A.Refines B) (xs : List Decimal) : ConfirmedBy (A.sum xs) (B.sum xs) :=
  .foldlM h.add _ xs

lemma sum_append (xs : List Decimal) (x : Decimal) :
    A.sum (xs ++ [x]) = A.sum xs >>= fun t => A.add t x := by
  simp only [sum, List.foldlM_append, List.foldlM_cons, List.foldlM_nil, bind_pure]

lemma value_of_sum {xs : List Decimal} {t : Decimal} (h : lossless.sum xs = .ok t) :
    t.value = (xs.map Decimal.value).sum := by
  induction xs using List.reverseRecOn generalizing t with
  | nil =>
    cases h
    simp
  | append_singleton xs x ih =>
    rw [sum_append, bind_eq_ok] at h
    obtain ⟨u, hu, ht⟩ := h
    simp [(lossless_add.1 ht).2, ih hu]

/-- A sum is exact if those of its beginnings are representable. -/
lemma sum_of_beginnings {xs : List Decimal}
    (h : ∀ ys, ys <+: xs → Decimal.Representable (ys.map Decimal.value).sum) :
    ∃ t, lossless.sum xs = .ok t ∧ t.value = (xs.map Decimal.value).sum := by
  suffices ∃ t, lossless.sum xs = .ok t from
    this.imp fun t ht => ⟨ht, value_of_sum ht⟩
  induction xs using List.reverseRecOn with
  | nil => exact ⟨_, rfl⟩
  | append_singleton xs x ih =>
    obtain ⟨u, hu⟩ := ih fun ys hys => h ys (hys.trans (List.prefix_append ..))
    have total : Decimal.Representable (u.value + x.value) := by
      simpa [value_of_sum hu] using h _ List.prefix_rfl
    obtain ⟨t, ht, _⟩ := lossless_add_of_representable total
    exact ⟨t, by rw [sum_append, hu, ok_bind, ht]⟩

/-- A list that can be added up has an exact sum. -/
lemma sum_of_addable {xs : List Decimal} (h : Addable (xs.map Decimal.value)) :
    ∃ t, lossless.sum xs = .ok t ∧ t.value = (xs.map Decimal.value).sum :=
  sum_of_beginnings fun _ hys => h.representable_sum (hys.sublist.map _)

end Arithmetic

end Daybook
