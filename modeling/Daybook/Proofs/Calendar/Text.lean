import Daybook.Calendar.Text
import Daybook.Proofs.Decimal.Text

/-!
# Reading back written dates

What is written of a date is read back as the same date, in all years of the calendar (`Date.parse?_render`):
years of four digits stand without a sign, and behind a sign any number of digits is read.
-/

namespace Daybook

variable {c : Char} {cs ds rest : List Char} {width n : ℕ}

/-! ### White space -/

lemma Text.isBlank_of_isDigit (h : c.isDigit = true) : isBlank c = false := by
  simp only [Char.isDigit, Bool.and_eq_true, decide_eq_true_eq, ge_iff_le, UInt32.le_iff_toNat_le] at h
  have low : 48 ≤ c.toNat := h.1
  have high : c.toNat ≤ 57 := h.2
  simp only [isBlank, inRanges, blankRanges, List.any_cons, List.any_nil, Bool.or_false,
    Bool.or_eq_false_iff, Bool.and_eq_false_iff, decide_eq_false_iff_not]
  omega

lemma Text.trimStart_of_not_blank (h : isBlank c = false) : trimStart (c :: cs) = c :: cs := by
  rw [trimStart, List.dropWhile_cons, if_neg (by simp [h])]

namespace Date

/-! ### Digits -/

lemma padded_ne_nil (width n : ℕ) : padded width n ≠ [] :=
  List.append_ne_nil_of_right_ne_nil _ Nat.toDigits_ne_nil

/-- A number that fits is written in as many digits as are asked for. -/
lemma length_padded (hwidth : 0 < width) (h : n < 10 ^ width) : (padded width n).length = width := by
  have hlength := (Nat.length_toDigits_le_iff (b := 10) (by decide) hwidth).2 h
  rw [padded, List.length_append, List.length_replicate]
  omega

lemma exists_padded (width n : ℕ) : ∃ c cs, padded width n = c :: cs ∧ c.isDigit = true := by
  obtain ⟨c, cs, hcs⟩ := List.exists_cons_of_ne_nil (padded_ne_nil width n)
  exact ⟨c, cs, hcs, isDigit_of_mem_zeros (hcs ▸ List.mem_cons_self)⟩

lemma trimStart_padded (width n : ℕ) (rest : List Char) :
    Text.trimStart (padded width n ++ rest) = padded width n ++ rest := by
  obtain ⟨c, cs, hcs, hc⟩ := exists_padded width n
  rw [hcs, List.cons_append, Text.trimStart_of_not_blank (Text.isBlank_of_isDigit hc)]

/-- A written number is read back, if its digits fit and no further digit comes behind them. -/
lemma readDigits?_padded {m : ℕ} (hlength : (padded m n).length ≤ width)
    (hrest : ∀ c ∈ rest.head?, c.isDigit = false) :
    readDigits? width (padded m n ++ rest) = some (n, rest) := by
  have behind : (rest.take (width - (padded m n).length)).takeWhile Char.isDigit = [] := by
    cases rest with
    | nil => simp
    | cons c rest =>
      have hc := hrest c rfl
      cases width - (padded m n).length <;> simp [hc]
  have inside : ∀ c ∈ padded m n, c.isDigit = true := fun c hc => isDigit_of_mem_zeros hc
  have digits : ((padded m n ++ rest).take width).takeWhile Char.isDigit = padded m n := by
    rw [List.take_append, List.take_of_length_le hlength, List.takeWhile_append_of_pos inside, behind,
      List.append_nil]
  have value : Nat.ofDigitChars 10 (padded m n) 0 = n := ofDigitChars_zeros ..
  rw [readDigits?, digits]
  simp [padded_ne_nil, value]

/-! ### Years -/

/-- A year that begins with a digit has no sign, and at most four digits. -/
lemma readYear?_of_isDigit (hc : c.isDigit = true) (h : readDigits? 4 (c :: cs) = some (n, rest)) :
    readYear? (c :: cs) = some ((n : ℤ), rest) := by
  rw [readYear?, h, Option.map_some]
  · rintro _ ⟨⟩
    cases hc
  · rintro _ ⟨⟩
    cases hc

/-- A year is read with its sign, up to the hyphen behind it. -/
lemma readYear?_renderYear (year : ℤ) (rest : List Char) :
    readYear? (renderYear year ++ '-' :: rest) = some (year, '-' :: rest) := by
  have hyphen : ∀ c ∈ ('-' :: rest).head?, c.isDigit = false := by
    rintro c ⟨⟩
    rfl
  unfold renderYear
  split <;> rename_i hyear
  · -- four digits without a sign
    have hlength : (padded 4 year.toNat).length ≤ 4 := (length_padded (by decide) (by omega)).le
    obtain ⟨c, cs, hcs, hc⟩ := exists_padded 4 year.toNat
    have read := readDigits?_padded hlength hyphen
    rw [hcs, List.cons_append] at read ⊢
    rw [readYear?_of_isDigit hc read, Int.toNat_of_nonneg hyear.1]
  · -- any number of digits behind a sign, which is the sign of the year
    have read : readDigits? (padded 4 year.natAbs ++ '-' :: rest).length
        (padded 4 year.natAbs ++ '-' :: rest) = some (year.natAbs, '-' :: rest) :=
      readDigits?_padded (by rw [List.length_append]; omega) hyphen
    split <;> rename_i hsign
    · rw [List.cons_append, readYear?, read, Option.map_some]
      dsimp only
      rw [Int.natAbs_of_nonneg hsign]
    · rw [List.cons_append, readYear?, read, Option.map_some]
      dsimp only
      rw [Int.ofNat_natAbs_of_nonpos (by omega), neg_neg]

lemma trimStart_renderYear (year : ℤ) (rest : List Char) :
    Text.trimStart (renderYear year ++ rest) = renderYear year ++ rest := by
  unfold renderYear
  split
  · exact trimStart_padded ..
  · split
    · exact Text.trimStart_of_not_blank (by decide)
    · exact Text.trimStart_of_not_blank (by decide)

/-! ### Dates -/

lemma readHyphen?_cons (rest : List Char) : readHyphen? ('-' :: rest) = some rest := by
  rw [readHyphen?, Text.trimStart_of_not_blank (by decide)]
  rfl

lemma of?_self (d : Date) : of? d.year d.month d.day = some d :=
  dif_pos ⟨d.year_mem, d.month_mem, d.day_mem⟩

/-- A written date is read as it was. -/
theorem parse?_render (d : Date) : parse? d.render = some d := by
  have hmonth : (padded 2 d.month).length ≤ 2 :=
    (length_padded (by decide) (by have := d.month_mem; omega)).le
  have hday : (padded 2 d.day).length ≤ 2 := by
    refine (length_padded (by decide) ?_).le
    have := d.day_mem.2
    have := daysInMonth_le d.year d.month
    omega
  have parts : d.renderChars
      = renderYear d.year ++ '-' :: (padded 2 d.month ++ '-' :: (padded 2 d.day ++ [])) := by
    simp [renderChars]
  rw [parse?, render, String.toList_ofList, parts, parseChars?, trimStart_renderYear,
    readYear?_renderYear]
  simp only [Option.bind_eq_bind, Option.bind_some, readHyphen?_cons, trimStart_padded]
  rw [readDigits?_padded hmonth (by rintro c ⟨⟩; rfl)]
  simp only [Option.bind_some, readHyphen?_cons, trimStart_padded]
  rw [readDigits?_padded hday (by simp)]
  exact of?_self d

end Date

end Daybook
