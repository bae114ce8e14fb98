import Daybook.Pattern.Regex
import Mathlib

/-!
# What regular expressions read

`Regex.Reads` says that an expression can read some characters between two neighbours, one after another by
its steps. What the parts of an expression read is given by an equation for each of them; a row of two, for
instance, reads what one and then the other read (`Regex.reads_seq`). A search finds a match exactly if the
expression reads some part of the text (`Regex.isMatch_iff`).
-/

namespace Daybook

namespace Regex

variable {r s : Regex} {rs : List Regex} {before? after? : Option Char} {c : Char} {cs : List Char}

/-- The expression reads the characters, which stand between two neighbours. -/
def Reads : Regex → Option Char → List Char → Option Char → Prop
  | r, before?, [],      after? => r.nullableAt ⟨before?, after?⟩ = true
  | r, before?, c :: cs, after? => ∃ s ∈ r.step ⟨before?, some c⟩ c, s.Reads (some c) cs after?

lemma reads_nil : r.Reads before? [] after? ↔ r.nullableAt ⟨before?, after?⟩ = true := Iff.rfl

lemma reads_cons : r.Reads before? (c :: cs) after? ↔
    ∃ s ∈ r.step ⟨before?, some c⟩ c, s.Reads (some c) cs after? := Iff.rfl

/-! ### Parts of expressions -/

lemma reads_empty : Regex.empty.Reads before? cs after? ↔ cs = [] := by
  cases cs with
  | nil => exact ⟨fun _ => rfl, fun _ => rfl⟩
  | cons c cs =>
    rw [reads_cons]
    constructor
    · rintro ⟨s, hs, _⟩
      cases hs
    · nofun

lemma reads_anchor {a : Anchor} : (Regex.anchor a).Reads before? cs after? ↔
    cs = [] ∧ a.holds ⟨before?, after?⟩ = true := by
  cases cs with
  | nil => exact ⟨fun h => ⟨rfl, h⟩, fun h => h.2⟩
  | cons c cs =>
    rw [reads_cons]
    constructor
    · rintro ⟨s, hs, _⟩
      cases hs
    · nofun

lemma reads_set {set : CharSet} : (Regex.set set).Reads before? cs after? ↔
    ∃ c, cs = [c] ∧ set.contains c = true := by
  cases cs with
  | nil => simp [reads_nil, nullableAt]
  | cons c cs =>
    rw [reads_cons, step]
    by_cases hc : set.contains c = true
    · simp [hc, reads_empty]
    · simp [hc]

lemma reads_followedBy :
    (r.followedBy s).Reads before? cs after? ↔ (seq r s).Reads before? cs after? := by
  cases r with
  | empty => cases cs <;> rfl
  | set _ => rfl
  | anchor _ => rfl
  | seq _ _ => rfl
  | alt _ _ => rfl
  | times _ _ _ => rfl

/-- The first of two either reads a character, or it reads nothing and the second one does. -/
lemma mem_step_seq {p : Place} {t : Regex} : t ∈ (seq r s).step p c ↔
    (∃ r' ∈ r.step p c, r'.followedBy s = t) ∨ (r.nullableAt p = true ∧ t ∈ s.step p c) := by
  rw [step]
  by_cases hr : r.nullableAt p = true
  · simp [hr]
  · simp [hr]

lemma getLast?_cons_or (c : Char) (cs : List Char) (before? : Option Char) :
    (c :: cs).getLast?.or before? = cs.getLast?.or (some c) := by
  rw [List.getLast?_cons]
  cases cs.getLast? <;> rfl

/-- Two in a row read what the first one and then the second one reads. -/
theorem reads_seq : (seq r s).Reads before? cs after? ↔ ∃ first second, cs = first ++ second ∧
    r.Reads before? first (second.head?.or after?) ∧
    s.Reads (first.getLast?.or before?) second after? := by
  -- by induction on what is read: a character goes to the first one or, where that can be done, the second
  induction cs generalizing r before? with
  | nil =>
    rw [reads_nil, nullableAt, Bool.and_eq_true]
    constructor
    · rintro ⟨hr, hs⟩
      exact ⟨[], [], rfl, hr, hs⟩
    · rintro ⟨first, second, hcs, hr, hs⟩
      obtain ⟨rfl, rfl⟩ := List.append_eq_nil_iff.1 hcs.symm
      exact ⟨hr, hs⟩
  | cons c cs ih =>
    rw [reads_cons]
    constructor
    · rintro ⟨t, ht, hread⟩
      rcases mem_step_seq.1 ht with ⟨r', hr', rfl⟩ | ⟨hr, hs⟩
      · obtain ⟨first, second, rfl, hfirst, hsecond⟩ := ih.1 (reads_followedBy.1 hread)
        refine ⟨c :: first, second, rfl, ⟨r', hr', hfirst⟩, ?_⟩
        rwa [getLast?_cons_or]
      · exact ⟨[], c :: cs, rfl, hr, t, hs, hread⟩
    · rintro ⟨first, second, hcs, hr, hs⟩
      cases first with
      | nil =>
        obtain rfl : second = c :: cs := hcs.symm
        obtain ⟨t, ht, hread⟩ := hs
        exact ⟨t, mem_step_seq.2 (.inr ⟨hr, ht⟩), hread⟩
      | cons d first =>
        rw [List.cons_append, List.cons.injEq] at hcs
        obtain ⟨rfl, rfl⟩ := hcs
        obtain ⟨r', hr', hfirst⟩ := hr
        rw [getLast?_cons_or] at hs
        refine ⟨r'.followedBy s, mem_step_seq.2 (.inl ⟨r', hr', rfl⟩), ?_⟩
        exact reads_followedBy.2 (ih.2 ⟨first, second, rfl, hfirst, hs⟩)

/-- Any characters, any number of times: each of them leaves the same expression. -/
lemma reads_run : (times 0 none (set .all)).Reads before? cs after? := by
  induction cs generalizing before? with
  | nil => rfl
  | cons c cs ih => exact ⟨times 0 none (set .all), List.mem_singleton_self _, ih⟩

/-! ### Search -/

/-- The expression reads some of the characters, from the first one on. -/
def ReadsSome (r : Regex) (before? : Option Char) (cs : List Char) : Prop :=
  ∃ found rest, cs = found ++ rest ∧ r.Reads before? found rest.head?

lemma readsSome_nil : r.ReadsSome before? [] ↔ r.nullableAt ⟨before?, none⟩ = true := by
  constructor
  · rintro ⟨found, rest, hcs, hread⟩
    obtain ⟨rfl, rfl⟩ := List.append_eq_nil_iff.1 hcs.symm
    exact hread
  · intro h
    exact ⟨[], [], rfl, h⟩

lemma readsSome_cons : r.ReadsSome before? (c :: cs) ↔
    r.nullableAt ⟨before?, some c⟩ = true ∨
      ∃ s ∈ r.step ⟨before?, some c⟩ c, s.ReadsSome (some c) cs := by
  constructor
  · rintro ⟨found, rest, hcs, hread⟩
    cases found with
    | nil =>
      obtain rfl : rest = c :: cs := hcs.symm
      exact .inl hread
    | cons d found =>
      rw [List.cons_append, List.cons.injEq] at hcs
      obtain ⟨rfl, rfl⟩ := hcs
      obtain ⟨s, hs, hread⟩ := hread
      exact .inr ⟨s, hs, found, rest, rfl, hread⟩
  · rintro (h | ⟨s, hs, found, rest, rfl, hread⟩)
    · exact ⟨[], c :: cs, rfl, h⟩
    · exact ⟨c :: found, rest, rfl, s, hs, hread⟩

/-- The expression reads a part of the characters. -/
def ReadsPart (r : Regex) (before? : Option Char) (cs : List Char) : Prop :=
  ∃ skipped rest, cs = skipped ++ rest ∧ r.ReadsSome (skipped.getLast?.or before?) rest

lemma readsPart_nil : r.ReadsPart before? [] ↔ r.ReadsSome before? [] := by
  constructor
  · rintro ⟨skipped, rest, hcs, hread⟩
    obtain ⟨rfl, rfl⟩ := List.append_eq_nil_iff.1 hcs.symm
    exact hread
  · intro h
    exact ⟨[], [], rfl, h⟩

lemma readsPart_cons : r.ReadsPart before? (c :: cs) ↔
    r.ReadsSome before? (c :: cs) ∨ r.ReadsPart (some c) cs := by
  constructor
  · rintro ⟨skipped, rest, hcs, hread⟩
    cases skipped with
    | nil =>
      obtain rfl : rest = c :: cs := hcs.symm
      exact .inl hread
    | cons d skipped =>
      rw [List.cons_append, List.cons.injEq] at hcs
      obtain ⟨rfl, rfl⟩ := hcs
      rw [getLast?_cons_or] at hread
      exact .inr ⟨skipped, rest, rfl, hread⟩
  · rintro (h | ⟨skipped, rest, rfl, hread⟩)
    · exact ⟨[], c :: cs, rfl, h⟩
    · rw [← getLast?_cons_or c skipped before?] at hread
      exact ⟨c :: skipped, rest, rfl, hread⟩

/-- Going through a list adds the expressions that have not been seen to those that are kept. -/
lemma mem_distinct_from {seen : Std.HashSet Regex} {kept : List Regex}
    (h : ∀ r, seen.contains r = true ↔ r ∈ kept) :
    r ∈ (rs.foldl (fun (seen, kept) r =>
      if seen.contains r then (seen, kept) else (seen.insert r, r :: kept)) (seen, kept)).2 ↔
      r ∈ kept ∨ r ∈ rs := by
  induction rs generalizing seen kept with
  | nil => simp
  | cons s rs ih =>
    rw [List.foldl_cons, List.mem_cons]
    by_cases hs : seen.contains s = true
    · dsimp only
      rw [if_pos hs, ih h]
      have hkept : r = s → r ∈ kept := fun hr => hr ▸ (h s).1 hs
      tauto
    · dsimp only
      rw [if_neg hs, ih]
      · rw [List.mem_cons]
        tauto
      · intro t
        rw [Std.HashSet.contains_insert, Bool.or_eq_true, beq_iff_eq, h, List.mem_cons, eq_comm]

lemma mem_distinct : r ∈ distinct rs ↔ r ∈ rs := by
  rw [distinct, mem_distinct_from]
  · simp
  · simp

/-- A search goes on with what is under way, and begins once more at each character. -/
theorem search_iff : search r rs before? cs = true ↔
    (∃ s ∈ rs, s.ReadsSome before? cs) ∨ r.ReadsPart before? cs := by
  induction cs generalizing rs before? with
  | nil =>
    rw [search, List.any_eq_true, List.exists_mem_cons_iff, or_comm, readsPart_nil]
    simp only [readsSome_nil]
  | cons c cs ih =>
    -- what is under way or begins here ends at once, or goes on with a step
    have hhere : (∃ s ∈ r :: rs, s.ReadsSome before? (c :: cs)) ↔
        (∃ s ∈ r :: rs, s.nullableAt ⟨before?, some c⟩ = true) ∨
          ∃ t ∈ (r :: rs).flatMap (·.step ⟨before?, some c⟩ c), t.ReadsSome (some c) cs := by
      simp only [readsSome_cons, and_or_left, exists_or, List.mem_flatMap]
      refine or_congr_right ⟨?_, ?_⟩
      · rintro ⟨s, hs, t, ht, hread⟩
        exact ⟨t, ⟨s, hs, ht⟩, hread⟩
      · rintro ⟨t, ⟨s, hs, ht⟩, hread⟩
        exact ⟨s, hs, t, ht, hread⟩
    rw [search, Bool.or_eq_true, List.any_eq_true, ih]
    simp only [mem_distinct]
    rw [← or_assoc, ← hhere, List.exists_mem_cons_iff, readsPart_cons, or_assoc, or_left_comm]

/-- An expression matches a text if it reads a part of it. -/
theorem isMatch_iff (r : Regex) (text : String) : r.isMatch text = true ↔
    ∃ skipped found rest, text.toList = skipped ++ found ++ rest ∧
      r.Reads skipped.getLast? found rest.head? := by
  rw [isMatch, search_iff]
  constructor
  · rintro (⟨s, hs, _⟩ | ⟨skipped, _, htext, found, rest, rfl, hread⟩)
    · cases hs
    · rw [Option.or_none] at hread
      rw [← List.append_assoc] at htext
      exact ⟨skipped, found, rest, htext, hread⟩
  · rintro ⟨skipped, found, rest, htext, hread⟩
    rw [← Option.or_none (o := skipped.getLast?)] at hread
    rw [List.append_assoc] at htext
    exact .inr ⟨skipped, found ++ rest, htext, found, rest, rfl, hread⟩

end Regex

end Daybook
