import Daybook.Decimal.Text
import Mathlib

/-!
# Reading back written decimals

What is written of a decimal is read back as it is, with all of its places; only the minus sign of a zero is
lost (`Decimal.parse?_render`). The digits never get out of room while they are read, because what they come
to only grows, and ends at the mantissa (`Decimal.readPlain_digits`).
-/

namespace Daybook

/-! ### Digits with zeros in front -/

lemma isDigit_of_mem_zeros {k n : ℕ} {c : Char}
    (hc : c ∈ List.replicate k '0' ++ Nat.toDigits 10 n) : c.isDigit = true := by
  rcases List.mem_append.1 hc with hzero | hdigit
  · rw [List.eq_of_mem_replicate hzero]
    rfl
  · exact Nat.isDigit_of_mem_toDigits (by decide) le_rfl hdigit

lemma ofDigitChars_zeros (k n : ℕ) :
    Nat.ofDigitChars 10 (List.replicate k '0' ++ Nat.toDigits 10 n) 0 = n := by
  rw [Nat.ofDigitChars_append, Nat.ofDigitChars_replicate_zero, mul_zero,
    Nat.ofDigitChars_ten_toDigits]

namespace Decimal

variable {ds rest : List Char} {mantissa scale m s : ℕ} {digits : Bool}

/-- The decimal without the minus sign that a zero may carry. -/
def unsigned (a : Decimal) : Decimal := { a with minusZero := false, eq_zero_of_minusZero := nofun }

@[simp] lemma sameValue_unsigned (a : Decimal) : a.sameValue a.unsigned = true := sameValue_self a

/-- The same value, with as many places. -/
structure SameAs (a b : Decimal) : Prop where
  sameValue : a.sameValue b = true
  scale_eq : a.scale = b.scale

lemma sameAs_unsigned (a : Decimal) : a.SameAs a.unsigned := ⟨a.sameValue_unsigned, rfl⟩

lemma of?_eq_unsigned (a : Decimal) : of? a.mantissa a.scale = some a.unsigned :=
  dif_pos ⟨a.mantissa_lt, a.scale_le⟩

/-! ### Digits -/

lemma le_ofDigitChars (ds : List Char) (m : ℕ) : m ≤ Nat.ofDigitChars 10 ds m := by
  induction ds generalizing m with
  | nil => exact le_rfl
  | cons c ds ih =>
    rw [Nat.ofDigitChars_cons]
    exact le_trans (by omega) (ih _)

/-- Digits are read one by one, as long as what they come to has room. -/
lemma readPlain_digits (point : Bool) (hds : ∀ c ∈ ds, c.isDigit = true)
    (room : Nat.ofDigitChars 10 ds m < mantissaBound) (places : point = true → s + ds.length ≤ maxScale) :
    readPlain m s point digits (ds ++ rest) = readPlain (Nat.ofDigitChars 10 ds m)
      (if point then s + ds.length else s) point (digits || !ds.isEmpty) rest := by
  induction ds generalizing m s digits with
  | nil => simp
  | cons c ds ih =>
    obtain ⟨hc, hds⟩ := List.forall_mem_cons.1 hds
    rw [Nat.ofDigitChars_cons] at room ⊢
    have roomHere := lt_of_le_of_lt (le_ofDigitChars ds _) room
    have placeHere : ¬ (point && s == maxScale) = true := by
      rw [Bool.and_eq_true, beq_iff_eq]
      rintro ⟨hpoint, rfl⟩
      have := places hpoint
      rw [List.length_cons] at this
      omega
    rw [List.cons_append, readPlain, digitValue?, if_pos hc]
    dsimp only
    rw [if_neg placeHere, if_pos roomHere, ih hds room]
    · cases point <;> simp [Nat.add_assoc, Nat.add_comm 1]
    · intro hpoint
      have := places hpoint
      rw [List.length_cons] at this
      simp only [hpoint, if_true]
      omega

/-! ### Magnitudes -/

lemma lt_length_paddedDigits (mantissa scale : ℕ) : scale < (paddedDigits mantissa scale).length := by
  rw [paddedDigits, List.length_append, List.length_replicate]
  omega

/-- The digits of a magnitude are those before the point and those behind it. -/
lemma exists_renderMagnitude (mantissa scale : ℕ) : ∃ whole places : List Char,
    whole ≠ [] ∧ places.length = scale ∧ (∀ c ∈ whole ++ places, c.isDigit = true) ∧
    Nat.ofDigitChars 10 (whole ++ places) 0 = mantissa ∧
    renderMagnitude mantissa scale = if scale = 0 then whole else whole ++ '.' :: places := by
  have hlength := lt_length_paddedDigits mantissa scale
  refine ⟨_, _, ?_, ?_, ?_, ?_, rfl⟩
  · rw [← List.length_pos_iff, List.length_take]
    omega
  · rw [List.length_drop]
    omega
  · rw [List.take_append_drop]
    exact fun c hc => isDigit_of_mem_zeros hc
  · rw [List.take_append_drop]
    exact ofDigitChars_zeros ..

/-- A magnitude is read with its places. -/
lemma readPlain_renderMagnitude (hm : mantissa < mantissaBound) (hs : scale ≤ maxScale) :
    readPlain 0 0 false false (renderMagnitude mantissa scale) = some (mantissa, scale) := by
  obtain ⟨whole, places, hwhole, hlength, hdigits, hvalue, hrender⟩ :=
    exists_renderMagnitude mantissa scale
  rw [List.forall_mem_append] at hdigits
  rw [Nat.ofDigitChars_append] at hvalue
  have room : Nat.ofDigitChars 10 whole 0 < mantissaBound :=
    lt_of_le_of_lt (le_ofDigitChars places _) (by rwa [hvalue])
  have seen : (false || !whole.isEmpty) = true := by simpa using hwhole
  rw [hrender]
  by_cases hzero : scale = 0
  · -- without places there is no point, either
    subst hzero
    obtain rfl := List.length_eq_zero_iff.1 hlength
    rw [Nat.ofDigitChars_nil] at hvalue
    rw [if_pos rfl, ← List.append_nil whole, readPlain_digits false hdigits.1 room nofun,
      seen, hvalue]
    rfl
  · rw [if_neg hzero, readPlain_digits false hdigits.1 room nofun, seen]
    show readPlain (Nat.ofDigitChars 10 whole 0) 0 true true places = _
    rw [← List.append_nil places, readPlain_digits true hdigits.2 (by rwa [hvalue])
      fun _ => by rwa [hlength, Nat.zero_add], hvalue, if_pos rfl, hlength, Nat.zero_add]
    rfl

/-- A magnitude begins with a digit, so there is no sign to be found. -/
lemma parsePlainChars?_renderMagnitude (mantissa scale : ℕ) :
    parsePlainChars? (renderMagnitude mantissa scale)
      = (readPlain 0 0 false false (renderMagnitude mantissa scale)).bind fun (m, s) => of? m s := by
  obtain ⟨whole, places, hwhole, _, hdigits, _, hrender⟩ := exists_renderMagnitude mantissa scale
  obtain ⟨c, whole, rfl⟩ := List.exists_cons_of_ne_nil hwhole
  have hc : c.isDigit = true := hdigits c (by simp)
  have hcons : ∃ cs, renderMagnitude mantissa scale = c :: cs := by
    rw [hrender]
    split
    · exact ⟨_, rfl⟩
    · exact ⟨_, rfl⟩
  obtain ⟨cs, hcs⟩ := hcons
  rw [hcs, parsePlainChars?]
  · rintro _ ⟨⟩
    cases hc
  · rintro _ ⟨⟩
    cases hc

/-! ### Decimals -/

/-- A written decimal is read with its mantissa and its scale. -/
theorem parse?_render (a : Decimal) : parse? a.render = some a.unsigned := by
  have magnitude := readPlain_renderMagnitude a.mantissa_lt a.scale_le
  have plain : parsePlain? a.render = some a.unsigned := by
    rw [parsePlain?, render, String.toList_ofList, renderChars]
    split <;> rename_i hsign
    · -- behind a minus sign stands a negative mantissa, or a zero that carries the sign
      have negative : -(a.mantissa.natAbs : ℤ) = a.mantissa := by
        rcases (Bool.or_eq_true _ _).mp hsign with hneg | hzero
        · have : a.mantissa < 0 := by simpa [isNegative] using hneg
          omega
        · rw [a.eq_zero_of_minusZero hzero]
          rfl
      show (readPlain 0 0 false false (renderMagnitude _ _)).bind _ = _
      rw [magnitude, Option.bind_some]
      dsimp only
      rw [negative, of?_eq_unsigned]
    · have positive : (a.mantissa.natAbs : ℤ) = a.mantissa := by
        have : ¬ a.mantissa < 0 := by
          intro hneg
          exact hsign (by simp [isNegative, hneg])
        omega
      rw [List.nil_append, parsePlainChars?_renderMagnitude, magnitude, Option.bind_some]
      dsimp only
      rw [positive, of?_eq_unsigned]
  rw [parse?, plain]

example : parse? (⟨-1250, 3, false, by decide, by decide, nofun⟩ : Decimal).render
    = of? (-1250) 3 := by decide +kernel

end Decimal

end Daybook
