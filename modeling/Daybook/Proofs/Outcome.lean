import Daybook.Fault
import Mathlib

/-!
# Outcomes of computations

When a computation that can fail ends with a result, and when another computation ends with the same
result: the second one confirms the first (`ConfirmedBy`) if it has all of its results. Two computations
have the `SameOutcome` if they fail in the same way or their results are related.
-/

namespace Daybook

variable {ε α β : Type}

/-! ### Results -/

@[simp] lemma pure_eq_ok (a : α) : (pure a : Except ε α) = .ok a := rfl

@[simp] lemma ok_bind (a : α) (f : α → Except ε β) : (Except.ok a >>= f) = f a := rfl

@[simp] lemma error_bind (e : ε) (f : α → Except ε β) : (Except.error e >>= f) = .error e := rfl

@[simp] lemma map_ok (f : α → β) (a : α) : f <$> (Except.ok a : Except ε α) = .ok (f a) := rfl

lemma bind_eq_ok {x : Except ε α} {f : α → Except ε β} {b : β} :
    x >>= f = .ok b ↔ ∃ a, x = .ok a ∧ f a = .ok b := by
  cases x <;> simp

/-- An error of two steps is one of the first, or one of the second after a result of the first. -/
lemma bind_eq_error {x : Except ε α} {f : α → Except ε β} {e : ε} :
    x >>= f = .error e ↔ x = .error e ∨ ∃ a, x = .ok a ∧ f a = .error e := by
  cases x <;> simp

lemma map_eq_ok {x : Except ε α} {f : α → β} {b : β} :
    f <$> x = .ok b ↔ ∃ a, x = .ok a ∧ f a = b := by
  cases x <;> simp

@[simp] lemma liftOverflow_eq_ok {x : Except Overflow α} {a : α} :
    (liftOverflow x : Except (Fault ε) α) = .ok a ↔ x = .ok a := by
  cases x <;> simp [liftOverflow]

@[simp] lemma liftOverflow_eq_overflow {x : Except Overflow α} {o : Overflow} :
    (liftOverflow x : Except (Fault ε) α) = .error (.overflow o) ↔ x = .error o := by
  cases x <;> simp [liftOverflow]

lemma liftOverflow_eq_error {x : Except Overflow α} {fault : Fault ε} :
    (liftOverflow x : Except (Fault ε) α) = .error fault ↔ ∃ o, x = .error o ∧ fault = .overflow o := by
  cases x <;> simp [liftOverflow, eq_comm]

/-- Arithmetic is lifted into a computation with other errors by `liftOverflow`. -/
lemma liftM_eq_liftOverflow (x : Except Overflow α) :
    (liftM x : Except (Fault ε) α) = liftOverflow x := rfl

/-- A fold of steps over two lists is one over the first, then over the second. -/
lemma foldlM_append_eq_ok {σ : Type} {step : σ → α → Except ε σ} {s t : σ} {xs ys : List α} :
    (xs ++ ys).foldlM step s = .ok t ↔
      ∃ u, xs.foldlM step s = .ok u ∧ ys.foldlM step u = .ok t := by
  rw [List.foldlM_append, bind_eq_ok]

/-- A fold whose steps first compute something from the element is a fold over what is computed. -/
lemma foldlM_bind_eq_ok {σ : Type} {f : α → Except ε β} {step : σ → β → Except ε σ} {s t : σ}
    {as : List α} :
    as.foldlM (fun s a => f a >>= step s) s = .ok t ↔
      ∃ bs, as.mapM f = .ok bs ∧ bs.foldlM step s = .ok t := by
  induction as generalizing s with
  | nil => simp
  | cons a as ih =>
    simp only [List.foldlM_cons, List.mapM_cons, bind_eq_ok, ih, pure_eq_ok, Except.ok.injEq]
    constructor
    · rintro ⟨u, ⟨b, hb, hu⟩, bs, hbs, ht⟩
      exact ⟨b :: bs, ⟨b, hb, bs, hbs, rfl⟩, by rw [List.foldlM_cons, hu, ok_bind, ht]⟩
    · rintro ⟨_, ⟨b, hb, bs, hbs, rfl⟩, ht⟩
      rw [List.foldlM_cons, bind_eq_ok] at ht
      obtain ⟨u, hu, ht⟩ := ht
      exact ⟨u, ⟨b, hb, hu⟩, bs, hbs, ht⟩

lemma mapM_eq_ok {f : α → Except ε β} {as : List α} {bs : List β} :
    as.mapM f = .ok bs ↔ List.Forall₂ (fun a b => f a = .ok b) as bs := by
  induction as generalizing bs with
  | nil => rw [List.mapM_nil, pure_eq_ok, Except.ok.injEq, List.forall₂_nil_left_iff, eq_comm]
  | cons a as ih =>
    simp only [List.mapM_cons, bind_eq_ok, ih, pure_eq_ok, Except.ok.injEq,
      List.forall₂_cons_left_iff]
    constructor
    · rintro ⟨b, hb, bs, hbs, rfl⟩
      exact ⟨b, bs, hb, hbs, rfl⟩
    · rintro ⟨b, bs, hb, hbs, rfl⟩
      exact ⟨b, hb, bs, hbs, rfl⟩

lemma exists_mapM {f : α → Except ε β} {as : List α} (h : ∀ a ∈ as, ∃ b, f a = .ok b) :
    ∃ bs, as.mapM f = .ok bs := by
  induction as with
  | nil => exact ⟨[], rfl⟩
  | cons a as ih =>
    obtain ⟨⟨b, hb⟩, h⟩ := List.forall_mem_cons.1 h
    obtain ⟨bs, hbs⟩ := ih h
    exact ⟨b :: bs, by rw [List.mapM_cons, hb, ok_bind, hbs]; rfl⟩

/-- In lists that are related one by one, each member of the second has a partner in the first. -/
lemma exists_of_mem_forall₂ {R : α → β → Prop} {as : List α} {bs : List β}
    (h : List.Forall₂ R as bs) {b : β} (hb : b ∈ bs) : ∃ a ∈ as, R a b := by
  induction h with
  | nil => cases hb
  | cons hab _ ih =>
    rcases List.mem_cons.1 hb with rfl | hb
    · exact ⟨_, List.mem_cons_self, hab⟩
    · obtain ⟨a, hmem, hab⟩ := ih hb
      exact ⟨a, List.mem_cons_of_mem _ hmem, hab⟩

/-- A result is no error. -/
lemma ne_error_of_eq_ok {x : Except ε α} {a : α} (h : x = .ok a) (e : ε) : x ≠ .error e := by
  rw [h]
  exact nofun

lemma ne_error_of_isOk {x : Except ε α} (h : x.isOk = true) (e : ε) : x ≠ .error e := by
  rintro rfl
  cases h

/-- An error of two steps is one of the first or one of the second. -/
lemma bind_ne_error {x : Except ε α} {f : α → Except ε β} {e : ε} (hx : x ≠ .error e)
    (hf : ∀ a, x = .ok a → f a ≠ .error e) : x >>= f ≠ .error e := by
  cases x with
  | error e' => exact fun he => hx (congrArg _ (Except.error.inj he))
  | ok a => exact hf a rfl

lemma map_ne_error {x : Except ε α} {f : α → β} {e : ε} (h : x ≠ .error e) : f <$> x ≠ .error e := by
  apply bind_ne_error h
  intro a _
  exact ne_error_of_eq_ok rfl e

/-! ### Results that another computation confirms -/

/-- Whatever the first computation ends with, the second one ends with, too. -/
def ConfirmedBy (x y : Except ε α) : Prop := ∀ ⦃a⦄, x = .ok a → y = .ok a

namespace ConfirmedBy

variable {x y : Except ε α} {f g : α → Except ε β}

lemma refl (x : Except ε α) : ConfirmedBy x x := fun _ h => h

lemma bind (h : ConfirmedBy x y) (hf : ∀ a, ConfirmedBy (f a) (g a)) :
    ConfirmedBy (x >>= f) (y >>= g) := by
  cases x with
  | error e => exact nofun
  | ok a =>
    rw [h rfl]
    exact hf a

lemma lift {x y : Except Overflow α} (h : ConfirmedBy x y) :
    ConfirmedBy (liftM x : Except (Fault ε) α) (liftM y) := by
  intro a ha
  rw [liftM_eq_liftOverflow, liftOverflow_eq_ok] at ha ⊢
  exact h ha

lemma foldlM {σ : Type} {step step' : σ → α → Except ε σ}
    (h : ∀ s a, ConfirmedBy (step s a) (step' s a)) (s : σ) (as : List α) :
    ConfirmedBy (as.foldlM step s) (as.foldlM step' s) := by
  induction as generalizing s with
  | nil => exact refl _
  | cons a as ih => exact (h s a).bind fun s => ih s

end ConfirmedBy

/-! ### Computations with the same outcome -/

/-- The computations fail in the same way, or their results are related. -/
inductive SameOutcome (R : α → β → Prop) : Except ε α → Except ε β → Prop
  | error (e : ε) : SameOutcome R (.error e) (.error e)
  | ok {a : α} {b : β} (h : R a b) : SameOutcome R (.ok a) (.ok b)

namespace SameOutcome

variable {α' β' : Type} {R : α → β → Prop} {S : α' → β' → Prop} {x : Except ε α} {y : Except ε β}

lemma bind {f : α → Except ε α'} {g : β → Except ε β'} (h : SameOutcome R x y)
    (hf : ∀ a b, R a b → SameOutcome S (f a) (g b)) : SameOutcome S (x >>= f) (y >>= g) := by
  cases h with
  | error e => exact .error e
  | ok h => exact hf _ _ h

lemma imp {R' : α → β → Prop} (h : SameOutcome R x y) (hR : ∀ {a b}, R a b → R' a b) :
    SameOutcome R' x y := by
  cases h with
  | error e => exact .error e
  | ok h => exact .ok (hR h)

lemma symm (h : SameOutcome R x y) : SameOutcome (fun b a => R a b) y x := by
  cases h with
  | error e => exact .error e
  | ok h => exact .ok h

lemma trans {S : β → α' → Prop} {z : Except ε α'} (h : SameOutcome R x y) (h' : SameOutcome S y z) :
    SameOutcome (fun a c => ∃ b, R a b ∧ S b c) x z := by
  cases h with
  | error e =>
    cases h'
    exact .error e
  | ok h =>
    cases h' with
    | ok h' => exact .ok ⟨_, h, h'⟩

/-- The same computation may come before. -/
lemma bind_left (x : Except ε α) {f : α → Except ε α'} {g : α → Except ε β'}
    (hf : ∀ a, SameOutcome S (f a) (g a)) : SameOutcome S (x >>= f) (x >>= g) := by
  cases x with
  | error e => exact .error e
  | ok a => exact hf a

lemma mapM {f : α → Except ε α'} {g : β → Except ε β'} {as : List α} {bs : List β}
    (h : List.Forall₂ R as bs) (hf : ∀ a b, R a b → SameOutcome S (f a) (g b)) :
    SameOutcome (List.Forall₂ S) (as.mapM f) (bs.mapM g) := by
  induction h with
  | nil => exact .ok .nil
  | cons hab _ ih =>
    rw [List.mapM_cons, List.mapM_cons]
    exact (hf _ _ hab).bind fun _ _ first => ih.bind fun _ _ more => .ok (.cons first more)

end SameOutcome

end Daybook
