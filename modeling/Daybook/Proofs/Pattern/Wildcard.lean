import Daybook.Pattern.Wildcard
import Mathlib

/-!
# What wildcards cover

The percent signs of a wildcard cut it into literal parts. A text is covered if it is the first part and then
`RunsBefore` the others: a run of any characters before each of them (`Wildcard.covers_iff`). The parts are
looked for from left to right and each one where it comes first. That loses nothing, because whatever lies
between there and a later place goes into the next run (`RunsBefore.append_left`).
-/

namespace Daybook

namespace Wildcard

variable {part rest cs ds run : List Char} {parts : List (List Char)}

/-! ### Cutting at percent signs -/

/-- The parts are what stands between percent signs. -/
lemma splitOn_eq (cs : List Char) :
    cs.splitOn '%' = (Wildcard.parts cs).1 :: (Wildcard.parts cs).2 := by
  induction cs with
  | nil => rfl
  | cons c cs ih =>
    rw [List.splitOn] at ih ⊢
    rw [List.splitOnP_cons_eq_if_modifyHead, ih, Wildcard.parts]
    by_cases hc : c = '%' <;> simp [hc]

lemma parts_of_notMem (h : '%' ∉ cs) : Wildcard.parts cs = (cs, []) := by
  induction cs with
  | nil => rfl
  | cons c cs ih =>
    obtain ⟨hc, hcs⟩ := List.ne_and_not_mem_of_not_mem_cons h
    rw [Wildcard.parts, ih hcs]
    exact if_neg (Ne.symm hc)

/-! ### Parts in a text -/

lemma strip?_eq_some : strip? part cs = some rest ↔ cs = part ++ rest := by
  induction part generalizing cs with
  | nil => simp [strip?, eq_comm]
  | cons p part ih =>
    cases cs with
    | nil => simp [strip?]
    | cons c cs =>
      rw [strip?, List.cons_append, List.cons.injEq]
      by_cases hpc : p = c
      · rw [if_pos hpc, ih]
        exact ⟨fun h => ⟨hpc.symm, h⟩, fun h => h.2⟩
      · rw [if_neg hpc]
        exact ⟨nofun, fun h => absurd h.1.symm hpc⟩

/-- What is found of a part is the part. -/
lemma eq_of_skipPast? (h : skipPast? part cs = some rest) : ∃ run, cs = run ++ part ++ rest := by
  induction cs with
  | nil => exact ⟨[], strip?_eq_some.1 h⟩
  | cons c cs ih =>
    rw [skipPast?] at h
    cases hstrip : strip? part (c :: cs) with
    | some found =>
      rw [hstrip] at h
      cases h
      exact ⟨[], strip?_eq_some.1 hstrip⟩
    | none =>
      rw [hstrip] at h
      obtain ⟨run, hrun⟩ := ih h
      exact ⟨c :: run, by rw [hrun]; rfl⟩

/-- A part that is there is found, at the latest where it is. -/
lemma exists_skipPast? (run part ds : List Char) :
    ∃ more, skipPast? part (run ++ part ++ ds) = some (more ++ ds) := by
  induction run with
  | nil =>
    refine ⟨[], ?_⟩
    have hstrip : strip? part (part ++ ds) = some ds := strip?_eq_some.2 rfl
    rw [List.nil_append, List.nil_append]
    cases htext : part ++ ds with
    | nil => rw [skipPast?, ← htext, hstrip]
    | cons c cs => rw [skipPast?, ← htext, hstrip]
  | cons c run ih =>
    rw [List.cons_append, List.cons_append, skipPast?]
    cases hstrip : strip? part (c :: (run ++ part ++ ds)) with
    | none => exact ih
    | some found =>
      -- what follows the part is shorter at the later place, so it ends what follows at the first one
      have htext : c :: (run ++ part ++ ds) = part ++ found := strip?_eq_some.1 hstrip
      have hds : ds <:+ c :: (run ++ part ++ ds) := ⟨c :: (run ++ part), rfl⟩
      have hfound : found <:+ c :: (run ++ part ++ ds) := ⟨part, htext.symm⟩
      have hsuffix : ds <:+ found := by
        refine List.suffix_of_suffix_length_le hds hfound ?_
        have hlength := congrArg List.length htext
        simp only [List.length_cons, List.length_append] at hlength
        omega
      obtain ⟨more, rfl⟩ := hsuffix
      exact ⟨more, rfl⟩

/-! ### Runs between parts -/

/-- The text has a run of characters before each of the parts, and ends with the last one. -/
def RunsBefore (parts : List (List Char)) (cs : List Char) : Prop :=
  ∃ runs : List (List Char), runs.length = parts.length ∧
    cs = (List.zipWith (· ++ ·) runs parts).flatten

lemma runsBefore_nil : RunsBefore [] cs ↔ cs = [] := by
  constructor
  · rintro ⟨runs, _, rfl⟩
    rw [List.zipWith_nil_right, List.flatten_nil]
  · rintro rfl
    exact ⟨[], rfl, rfl⟩

lemma runsBefore_cons : RunsBefore (part :: parts) cs ↔
    ∃ run rest, cs = run ++ part ++ rest ∧ RunsBefore parts rest := by
  constructor
  · rintro ⟨runs, hlength, rfl⟩
    cases runs with
    | nil => cases hlength
    | cons run runs => exact ⟨run, _, rfl, runs, Nat.succ.inj hlength, rfl⟩
  · rintro ⟨run, rest, rfl, runs, hlength, rfl⟩
    exact ⟨run :: runs, congrArg Nat.succ hlength, rfl⟩

/-- The first run takes up what is put in front. -/
lemma RunsBefore.append_left (h : RunsBefore (part :: parts) cs) (more : List Char) :
    RunsBefore (part :: parts) (more ++ cs) := by
  obtain ⟨run, rest, rfl, hrest⟩ := runsBefore_cons.1 h
  exact runsBefore_cons.2 ⟨more ++ run, rest, by simp only [List.append_assoc], hrest⟩

lemma coversAfterRun_cons_cons (part next : List Char) (parts : List (List Char)) (cs : List Char) :
    coversAfterRun (part :: next :: parts) cs
      = (skipPast? part cs).any (coversAfterRun (next :: parts)) := by
  rw [coversAfterRun]
  · cases skipPast? part cs <;> rfl
  · nofun

/-- The search from left to right finds places for the parts if there are any. -/
theorem coversAfterRun_iff : coversAfterRun parts cs = true ↔ RunsBefore parts cs := by
  induction parts generalizing cs with
  | nil => rw [coversAfterRun, List.isEmpty_iff, runsBefore_nil]
  | cons part parts ih =>
    cases parts with
    | nil =>
      -- the last part has to stand at the end
      rw [coversAfterRun, List.isSuffixOf_iff_suffix, runsBefore_cons]
      constructor
      · rintro ⟨run, rfl⟩
        exact ⟨run, [], by rw [List.append_nil], runsBefore_nil.2 rfl⟩
      · rintro ⟨run, rest, rfl, hrest⟩
        obtain rfl := runsBefore_nil.1 hrest
        exact ⟨run, by rw [List.append_nil]⟩
    | cons next parts =>
      -- what lies between the first place of the part and this one goes into the next run
      rw [coversAfterRun_cons_cons, Option.any_eq_true, runsBefore_cons]
      constructor
      · rintro ⟨rest, hfound, hrest⟩
        obtain ⟨run, hrun⟩ := eq_of_skipPast? hfound
        exact ⟨run, rest, hrun, ih.1 hrest⟩
      · rintro ⟨run, rest, rfl, hrest⟩
        obtain ⟨more, hfound⟩ := exists_skipPast? run part rest
        exact ⟨more ++ rest, hfound, ih.2 (hrest.append_left more)⟩

/-- A wildcard covers a text that begins with its first part and has runs before the others. -/
theorem covers_iff (source text : String) : covers source text = true ↔
    ∃ rest, text.toList = (Wildcard.parts source.toList).1 ++ rest ∧
      RunsBefore (Wildcard.parts source.toList).2 rest := by
  rw [covers]
  constructor
  · intro h
    cases hstrip : strip? (Wildcard.parts source.toList).1 text.toList with
    | none => simp [hstrip] at h
    | some rest =>
      simp only [hstrip] at h
      exact ⟨rest, strip?_eq_some.1 hstrip, coversAfterRun_iff.1 h⟩
  · rintro ⟨rest, htext, hrest⟩
    simp only [strip?_eq_some.2 htext]
    exact coversAfterRun_iff.2 hrest

end Wildcard

end Daybook
