import Daybook.Decimal.Arithmetic
import Mathlib

/-!
# Values of decimals

`Decimal.value` is the number that a decimal stands for. A number is `Representable` if some decimal
stands for it, and the number of a sum or product that is representable is kept by the operation
(`Decimal.fit?_of_representable`).

`Addable` lists of numbers can be added up in any order: on a common scale their absolute values stay
below the bound of mantissas together, so every part of the list has a representable sum.
-/

namespace Daybook

lemma tenPow_cast (n : ℕ) : ((tenPow n : ℕ) : ℚ) = 10 ^ n := by
  simp [tenPow]

/-- A quotient rounds to zero if it is at most a half. -/
lemma divNearestEven_eq_zero_iff {n d : ℕ} (hd : 0 < d) : divNearestEven n d = 0 ↔ 2 * n ≤ d := by
  have hsplit := Nat.div_add_mod n d
  have hlt := Nat.mod_lt n hd
  unfold divNearestEven
  constructor
  · intro h
    split at h
    · next hround =>
      rw [h] at hsplit
      omega
    · exact absurd h (Nat.succ_ne_zero _)
  · intro h
    have hquot : n / d = 0 := Nat.div_eq_of_lt (by omega)
    rw [hquot, mul_zero, zero_add] at hsplit
    rw [if_pos (by omega), hquot]

namespace Decimal

/-- The number that a decimal stands for. -/
def value (a : Decimal) : ℚ := a.mantissa / 10 ^ a.scale

@[simp] lemma value_zero : zero.value = 0 := by simp [value, zero]

lemma isZero_iff {a : Decimal} : a.isZero = true ↔ a.value = 0 := by
  simp [isZero, value]

lemma value_mul_pow (a : Decimal) : a.value * 10 ^ a.scale = a.mantissa := by
  simp [value]

/-- Equality of value is equality of the numbers. -/
lemma sameValue_iff {a b : Decimal} : a.sameValue b = true ↔ a.value = b.value := by
  rw [sameValue, beq_iff_eq, value, value, div_eq_div_iff (by positivity) (by positivity),
    ← tenPow_cast, ← tenPow_cast]
  exact_mod_cast Iff.rfl

lemma value_of_of? {m : ℤ} {s : ℕ} {a : Decimal} (h : of? m s = some a) :
    a.value = m / 10 ^ s := by
  unfold of? at h
  split at h
  · cases h
    rfl
  · cases h

lemma of?_isSome {m : ℤ} {s : ℕ} (hm : m.natAbs < mantissaBound) (hs : s ≤ maxScale) :
    ∃ a, of? m s = some a := by
  simp [of?, hm, hs]

/-! ### Representable numbers -/

/-- The number is that of a decimal. -/
def Representable (x : ℚ) : Prop :=
  ∃ (n : ℤ) (s : ℕ), s ≤ maxScale ∧ n.natAbs < mantissaBound ∧ x * 10 ^ s = n

/-- Rounding to a place behind which there are only zeros drops these zeros. -/
lemma roundTo_of_zeros {n : ℤ} {s k p : ℕ} (hk : k ≤ p) (hp : p ≤ s) :
    roundTo (n * tenPow (s - k)) s p = n * tenPow (p - k) := by
  have split : tenPow (s - k) = tenPow (p - k) * tenPow (s - p) := by
    rw [← tenPow_add]
    congr 1
    omega
  have dvd : tenPow (s - p) ∣ (n * tenPow (s - k)).natAbs := by
    rw [Int.natAbs_mul, Int.natAbs_natCast, split]
    exact Dvd.intro_left (n.natAbs * tenPow (p - k)) (by ring)
  have sign : (tenPow (s - k) : ℤ).sign = 1 :=
    Int.sign_eq_one_of_pos (by exact_mod_cast tenPow_pos _)
  rw [roundTo, divNearestEven_of_dvd (tenPow_pos _) dvd, Int.sign_mul, sign, mul_one,
    Int.natAbs_mul, Int.natAbs_natCast, split, ← mul_assoc, Nat.mul_div_cancel _ (tenPow_pos _)]
  rw [Nat.cast_mul, ← mul_assoc, Int.sign_mul_natAbs]

/-- Going down from a place, the first room for a number is found at its own places at the latest. -/
lemma fitFrom?_of_zeros {n : ℤ} {s k p : ℕ} (hn : n.natAbs < mantissaBound) (hks : k ≤ maxScale)
    (hk : k ≤ p) (hp : p ≤ s) :
    ∃ c, fitFrom? (n * tenPow (s - k)) s p = some c ∧ c.value = n / 10 ^ k := by
  -- induction on the place: it either has room, with zeros behind the number, or is not the last
  have value_at : ∀ q, k ≤ q → ((n * tenPow (q - k) : ℤ) : ℚ) / 10 ^ q = n / 10 ^ k := by
    intro q hq
    obtain ⟨d, rfl⟩ := Nat.exists_eq_add_of_le hq
    push_cast
    rw [Nat.add_sub_cancel_left, tenPow_cast, pow_add, mul_div_mul_right _ _ (by positivity)]
  induction p with
  | zero =>
    obtain rfl : k = 0 := by omega
    obtain ⟨c, hc⟩ := of?_isSome hn hks
    refine ⟨c, ?_, value_of_of? hc⟩
    rw [fitFrom?, roundTo_of_zeros le_rfl hp]
    simpa using hc
  | succ p ih =>
    rw [fitFrom?, roundTo_of_zeros hk hp]
    cases hc : of? (n * tenPow (p + 1 - k)) (p + 1) with
    | some c => exact ⟨c, rfl, by rw [value_of_of? hc, value_at _ hk]⟩
    | none =>
      have hlt : k ≤ p := by
        by_contra hgt
        obtain rfl : k = p + 1 := by omega
        obtain ⟨c, hc'⟩ := of?_isSome hn hks
        simp [hc'] at hc
      exact ih hlt (by omega)

/-- A representable number keeps its value when it is fitted into a decimal. -/
lemma fit?_of_representable {m : ℤ} {s : ℕ} (h : Representable (m / 10 ^ s)) :
    ∃ c, fit? m s = some c ∧ c.value = m / 10 ^ s := by
  obtain ⟨n, k, hk, hn, hx⟩ := h
  rcases le_total k s with hks | hsk
  · -- the places behind those of the number are zeros, and may be dropped
    have hm : m = n * tenPow (s - k) := by
      have : (m : ℚ) = n * 10 ^ (s - k) := by
        rw [← hx, div_mul_eq_mul_div, div_mul_eq_mul_div, eq_div_iff (by positivity), mul_assoc,
          ← pow_add, Nat.add_sub_cancel' hks]
      rw [← tenPow_cast] at this
      exact_mod_cast this
    obtain ⟨c, hc, hv⟩ := fitFrom?_of_zeros hn hk (le_min hks hk) (min_le_left s maxScale)
    refine ⟨c, by rw [fit?, hm]; exact hc, ?_⟩
    rw [hv, ← hx, mul_div_assoc, div_self (by positivity), mul_one]
  · -- the places are too few for zeros behind the number, so it has room where it is
    have hm : m * tenPow (k - s) = n := by
      have : (m : ℚ) * 10 ^ (k - s) = n := by
        rw [← hx, div_mul_eq_mul_div, eq_div_iff (by positivity), mul_assoc, ← pow_add,
          Nat.sub_add_cancel hsk]
      rw [← tenPow_cast] at this
      exact_mod_cast this
    have hle : m.natAbs ≤ n.natAbs := by
      rw [← hm, Int.natAbs_mul, Int.natAbs_natCast]
      exact Nat.le_mul_of_pos_right _ (tenPow_pos _)
    obtain ⟨c, hc⟩ := of?_isSome (hle.trans_lt hn) (hsk.trans hk)
    exact ⟨c, fit?_of_of? hc, value_of_of? hc⟩

/-! ### Sums -/

lemma mantissaAt_eq {a : Decimal} {s : ℕ} (h : a.scale ≤ s) :
    (a.mantissaAt s : ℚ) = a.value * 10 ^ s := by
  obtain ⟨d, rfl⟩ := Nat.exists_eq_add_of_le h
  simp only [mantissaAt, Nat.add_sub_cancel_left]
  push_cast
  rw [tenPow_cast, pow_add, ← mul_assoc, value_mul_pow]

lemma sumMantissa_eq (a b : Decimal) :
    (a.sumMantissa b : ℚ) / 10 ^ a.sumScale b = a.value + b.value := by
  have ha : a.scale ≤ a.sumScale b := le_max_left ..
  have hb : b.scale ≤ a.sumScale b := le_max_right ..
  rw [sumMantissa, Int.cast_add, mantissaAt_eq ha, mantissaAt_eq hb, ← add_mul, mul_div_assoc,
    div_self (by positivity), mul_one]

@[simp] lemma add_of_isZero_left {a b : Decimal} (h : a.isZero = true) : a.add b = .ok b := by
  simp [add, h]

@[simp] lemma add_of_isZero_right {a b : Decimal} (ha : a.isZero = false) (hb : b.isZero = true) :
    a.add b = .ok a := by
  simp [add, ha, hb]

/-- A sum that is representable is neither rounded nor does it overflow. -/
lemma add_of_representable {a b : Decimal} (h : Representable (a.value + b.value)) :
    ∃ c, a.add b = .ok c ∧ c.value = a.value + b.value := by
  by_cases ha : a.isZero = true
  · exact ⟨b, add_of_isZero_left ha, by rw [isZero_iff.1 ha, zero_add]⟩
  by_cases hb : b.isZero = true
  · exact ⟨a, add_of_isZero_right (by simpa using ha) hb, by rw [isZero_iff.1 hb, add_zero]⟩
  rw [← sumMantissa_eq] at h ⊢
  obtain ⟨c, hc, hv⟩ := fit?_of_representable h
  exact ⟨c, by simp [add, ha, hb, hc], hv⟩

/-! ### Products -/

protected lemma mul_comm (a b : Decimal) : a.mul b = b.mul a := by
  unfold mul
  rw [Bool.and_comm, Bool.or_comm, Int.mul_comm, Nat.add_comm a.scale]

/-- Minus one, without places. -/
def minusOne : Decimal := ⟨-1, 0, false, by decide, zero.scale_le, nofun⟩

/-- Two, without places. -/
def two : Decimal := ⟨2, 0, false, by decide, zero.scale_le, nofun⟩

/-- Four, without places. -/
def four : Decimal := ⟨4, 0, false, by decide, zero.scale_le, nofun⟩

/-- Minus two, without places. -/
def minusTwo : Decimal := ⟨-2, 0, false, by decide, zero.scale_le, nofun⟩

/-- A tenth. -/
def tenth : Decimal := ⟨1, 1, false, one.mantissa_lt, by decide, one.eq_zero_of_minusZero⟩

/-- Small whole numbers are multiplied without places, and a tenth brings in one. -/
example : two.mul two = .ok four ∧ minusOne.mul two = .ok minusTwo ∧
    (tenth.mul four).map (·.scale) = .ok 1 := by decide +kernel

end Decimal

/-! ### Lists that can be added up -/

/-- On a common scale of at most 28 places the absolute values stay below the bound together. -/
def Addable (xs : List ℚ) : Prop :=
  ∃ s ≤ maxScale, (∀ x ∈ xs, ∃ n : ℤ, x * 10 ^ s = n) ∧
    (xs.map abs).sum * 10 ^ s < mantissaBound

namespace Addable

/-- Decimals on a common scale whose absolute mantissas stay below the bound together. -/
lemma of_mantissas {xs : List Decimal} {s : ℕ} (hs : s ≤ maxScale) (hscale : ∀ a ∈ xs, a.scale ≤ s)
    (hsum : (xs.map fun a => (a.mantissaAt s).natAbs).sum < mantissaBound) :
    Addable (xs.map Decimal.value) := by
  refine ⟨s, hs, fun x hx => ?_, ?_⟩
  · obtain ⟨a, ha, rfl⟩ := List.mem_map.1 hx
    exact ⟨a.mantissaAt s, (Decimal.mantissaAt_eq (hscale a ha)).symm⟩
  · -- on the common scale, absolute values and absolute mantissas have the same sum
    have total : ((xs.map Decimal.value).map abs).sum * 10 ^ s
        = ((xs.map fun a => (a.mantissaAt s).natAbs).sum : ℕ) := by
      clear hsum
      induction xs with
      | nil => simp
      | cons a xs ih =>
        obtain ⟨ha, hxs⟩ := List.forall_mem_cons.1 hscale
        have places : |(10 : ℚ) ^ s| = 10 ^ s := abs_of_pos (by positivity)
        simp only [List.map_cons, List.sum_cons, add_mul, ih hxs, Nat.cast_add, Nat.cast_natAbs,
          Int.cast_abs, Decimal.mantissaAt_eq ha, abs_mul, places]
    rw [total]
    exact_mod_cast hsum

lemma of_sublist {xs ys : List ℚ} (h : Addable xs) (hys : ys.Sublist xs) : Addable ys := by
  obtain ⟨s, hs, whole, bound⟩ := h
  refine ⟨s, hs, fun y hy => whole y (hys.subset hy), lt_of_le_of_lt ?_ bound⟩
  refine mul_le_mul_of_nonneg_right ?_ (by positivity)
  exact (hys.map abs).sum_le_sum fun x hx => by
    obtain ⟨y, _, rfl⟩ := List.mem_map.1 hx
    exact abs_nonneg y

lemma abs_sum_le (xs : List ℚ) : |xs.sum| ≤ (xs.map abs).sum := by
  induction xs with
  | nil => simp
  | cons x xs ih =>
    simp only [List.sum_cons, List.map_cons]
    exact (abs_add_le x xs.sum).trans (by gcongr)

lemma exists_sum_eq {xs : List ℚ} {s : ℕ} (whole : ∀ x ∈ xs, ∃ n : ℤ, x * 10 ^ s = n) :
    ∃ n : ℤ, xs.sum * 10 ^ s = n := by
  induction xs with
  | nil => exact ⟨0, by simp⟩
  | cons x xs ih =>
    obtain ⟨m, hm⟩ := whole x (by simp)
    obtain ⟨n, hn⟩ := ih fun y hy => whole y (by simp [hy])
    exact ⟨m + n, by rw [List.sum_cons, add_mul, hm, hn]; push_cast; rfl⟩

/-- The sum of such a list is the number of a decimal. -/
lemma representable {xs : List ℚ} (h : Addable xs) : Decimal.Representable xs.sum := by
  obtain ⟨s, hs, whole, bound⟩ := h
  obtain ⟨n, hn⟩ := exists_sum_eq whole
  refine ⟨n, s, hs, ?_, hn⟩
  have : (n.natAbs : ℚ) < mantissaBound := by
    refine lt_of_le_of_lt ?_ bound
    have places : |(10 : ℚ) ^ s| = 10 ^ s := abs_of_pos (by positivity)
    rw [Nat.cast_natAbs, Int.cast_abs, ← hn, abs_mul, places]
    exact mul_le_mul_of_nonneg_right (abs_sum_le xs) (by positivity)
  exact_mod_cast this

/-- So is the sum of every part of it. -/
lemma representable_sum {xs ys : List ℚ} (h : Addable xs) (hys : ys.Sublist xs) :
    Decimal.Representable ys.sum :=
  (h.of_sublist hys).representable

lemma of_perm {xs ys : List ℚ} (h : Addable xs) (hperm : xs.Perm ys) : Addable ys := by
  obtain ⟨s, hs, whole, bound⟩ := h
  refine ⟨s, hs, fun y hy => whole y (hperm.mem_iff.2 hy), ?_⟩
  rwa [← (hperm.map abs).sum_eq]

/-- The sums of parts can be added up as well. -/
lemma of_flatten {parts : List (List ℚ)} (h : Addable parts.flatten) :
    Addable (parts.map List.sum) := by
  obtain ⟨s, hs, whole, bound⟩ := h
  refine ⟨s, hs, fun x hx => ?_, lt_of_le_of_lt ?_ bound⟩
  · obtain ⟨part, hpart, rfl⟩ := List.mem_map.1 hx
    exact exists_sum_eq fun y hy => whole y (List.mem_flatten.2 ⟨part, hpart, hy⟩)
  · refine mul_le_mul_of_nonneg_right ?_ (by positivity)
    rw [List.map_flatten, List.sum_flatten, List.map_map, List.map_map]
    exact List.sum_le_sum fun part _ => abs_sum_le part

end Addable

end Daybook
