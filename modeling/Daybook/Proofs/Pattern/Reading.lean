import Daybook.Pattern.Syntax
import Mathlib

/-!
# Reading expressions

A `Reader` goes through the text of an expression by one construct after another. `Reader.Reaches` says that
it comes from one state to another and leaves the rest of the text; there is a lemma for each kind of
construct that an escaped text and a run of any characters take. As every construct takes a character, the
steps that `Reader.read?` allows for are enough (`Reader.read?_of_reaches`).
-/

namespace Daybook.Pattern

variable {c : Char} {cs ds part rest : List Char} {p : Part} {ps : List Part}

/-! ### Escaped texts -/

/-- The characters that mean something other than themselves in some place of an expression. -/
def metaChars : List Char :=
  ['\\', '.', '+', '*', '?', '(', ')', '|', '[', ']', '{', '}', '^', '$', '#', '&', '-', '~']

/-- The expression for a text as it is. -/
def escape (text : List Char) : List Char :=
  text.flatMap fun c => if c ∈ metaChars then ['\\', c] else [c]

lemma escape_cons_of_mem (h : c ∈ metaChars) : escape (c :: cs) = '\\' :: c :: escape cs := by
  rw [escape, List.flatMap_cons, if_pos h]
  rfl

lemma escape_cons_of_notMem (h : c ∉ metaChars) : escape (c :: cs) = c :: escape cs := by
  rw [escape, List.flatMap_cons, if_neg h]
  rfl

/-- After a backslash these characters mean themselves. -/
lemma Escape.read?_of_mem (flags : Flags) (h : c ∈ metaChars) (cs : List Char) :
    Escape.read? flags (c :: cs) = some (.char c, cs) := by
  fin_cases h
  all_goals rfl

/-! ### Parts -/

/-- The tree for a character as it is. -/
def Tree.ofChar (c : Char) : Tree := .set (.singleton c)

/-- The tree for a run of any characters. -/
def Tree.run : Tree := .times (.set .all) 0 none

def charPart (c : Char) : Part := .leaf (.ofChar c)

def runPart : Part := ⟨.run, 1, true⟩

/-- Several parts in a row are nested one deeper than the deepest of them. -/
lemma joinParts_of_depth_le (op : List Tree → Tree) {n : Nat} {q : Part}
    (h : ∀ r ∈ p :: q :: ps, r.depth ≤ n) :
    ∃ depth, depth ≤ n + 1 ∧
      joinParts op (p :: q :: ps) = ⟨op ((p :: q :: ps).map (·.tree)), depth, true⟩ := by
  have hfold : ∀ (rs : List Part) (d : Nat), d ≤ n → (∀ r ∈ rs, r.depth ≤ n) →
      rs.foldl (fun d r => max d r.depth) d ≤ n := by
    intro rs
    induction rs with
    | nil => exact fun d hd _ => hd
    | cons r rs ih =>
      intro d hd hrs
      obtain ⟨hr, hrest⟩ := List.forall_mem_cons.1 hrs
      exact ih _ (max_le hd hr) hrest
  exact ⟨_, Nat.succ_le_succ (hfold _ 0 (Nat.zero_le n) h), rfl⟩

/-! ### Steps -/

namespace Reader

variable {r s t : Reader}

/-- A construct that does not begin with such a character is the character itself. -/
lemma step?_of_notMem (h : c ∉ metaChars) : r.step? c cs = some (r.add (literal r.flags c), cs) := by
  unfold step?
  split
  all_goals first
    | rfl
    | exact absurd (by decide) h

/-- Reading on from the text comes to another state, with the rest of the text left. -/
def Reaches (r : Reader) (cs : List Char) (s : Reader) (rest : List Char) : Prop :=
  ∃ steps, steps + rest.length ≤ cs.length ∧ ∀ more, run? (steps + more) r cs = run? more s rest

lemma Reaches.refl (r : Reader) (cs : List Char) : r.Reaches cs r cs :=
  ⟨0, by omega, fun more => by rw [Nat.zero_add]⟩

lemma Reaches.trans (h : r.Reaches cs s ds) (h' : s.Reaches ds t rest) : r.Reaches cs t rest := by
  obtain ⟨m, hm, hrun⟩ := h
  obtain ⟨n, hn, hrun'⟩ := h'
  refine ⟨m + n, by omega, fun more => ?_⟩
  rw [Nat.add_assoc, hrun, hrun']

lemma reaches_of_step? (hflags : r.flags.spaced = false) (h : r.step? c cs = some (s, rest))
    (hle : rest.length ≤ cs.length) : r.Reaches (c :: cs) s rest := by
  refine ⟨1, by rw [List.length_cons]; omega, fun more => ?_⟩
  rw [Nat.add_comm, run?, Flags.skip, hflags]
  simp [h]

/-- A text that is gone through has been read. -/
lemma read?_of_reaches (h : initial.Reaches cs s []) (houter : s.outer = []) :
    read? cs = some s.inner.value := by
  obtain ⟨steps, hsteps, hrun⟩ := h
  rw [List.length_nil, Nat.add_zero] at hsteps
  obtain ⟨spare, hspare⟩ := Nat.exists_eq_add_of_le hsteps
  have hend : s.flags.skip [] = [] := by rw [Flags.skip, skipSpace, ite_self]
  rw [read?, hspare, Nat.add_assoc, hrun, run?, hend, houter]
  rfl

/-! ### Parts in a row -/

/-- The flags with which a dot stands for a line feed, too. -/
def anyDot : Flags := { Flags.initial with dotAll := true }

/-- The state in an expression with those flags, after some parts. -/
def afterParts (ps : List Part) : Reader := ⟨anyDot, ⟨none, .initial, [], ps.reverse⟩, [], 0, []⟩

lemma add_afterParts : (afterParts ps).add p = afterParts (ps ++ [p]) := by
  rw [afterParts, afterParts, List.reverse_append]
  rfl

/-- At the end the parts are one row. -/
lemma value_afterParts (ps : List Part) : (afterParts ps).inner.value = joinParts .seq ps := by
  have hcurrent : (afterParts ps).inner.current = joinParts .seq ps :=
    congrArg (joinParts .seq) ps.reverse_reverse
  rw [OpenGroup.value, hcurrent]
  rfl

lemma reaches_part {ps : List Part} {p : Part}
    (h : (afterParts ps).step? c cs = some ((afterParts ps).add p, rest))
    (hle : rest.length ≤ cs.length) :
    (afterParts ps).Reaches (c :: cs) (afterParts (ps ++ [p])) rest := by
  rw [add_afterParts] at h
  exact reaches_of_step? rfl h hle

lemma reaches_anyDot (cs : List Char) :
    initial.Reaches ("(?s)".toList ++ cs) (afterParts [⟨.empty, 0, false⟩]) cs := by
  refine reaches_of_step? rfl (?_ : step? initial '(' ('?' :: 's' :: ')' :: cs) = _) ?_
  · rfl
  · exact Nat.le_add_right cs.length 3

/-- An escaped text is read as its characters. -/
lemma reaches_escape (ps : List Part) (part cs : List Char) :
    (afterParts ps).Reaches (escape part ++ cs) (afterParts (ps ++ part.map charPart)) cs := by
  induction part generalizing ps with
  | nil =>
    rw [List.map_nil, List.append_nil]
    exact Reaches.refl _ _
  | cons c part ih =>
    have hfirst : (afterParts ps).Reaches (escape (c :: part) ++ cs) (afterParts (ps ++ [charPart c]))
        (escape part ++ cs) := by
      by_cases hc : c ∈ metaChars
      · rw [escape_cons_of_mem hc, List.cons_append, List.cons_append]
        refine reaches_part ?_ (Nat.le_succ _)
        rw [step?, Escape.read?_of_mem _ hc]
        rfl
      · rw [escape_cons_of_notMem hc]
        exact reaches_part (step?_of_notMem hc) le_rfl
    have hrest := ih (ps ++ [charPart c])
    rw [List.append_assoc] at hrest
    exact hfirst.trans hrest

/-- A dot with a star after it is read as a run, if no question mark follows. -/
lemma reaches_run (ps : List Part) (h : skipLazy cs = cs) :
    (afterParts ps).Reaches (".*".toList ++ cs) (afterParts (ps ++ [runPart])) cs := by
  have hdot : (afterParts ps).Reaches ('.' :: '*' :: cs) (afterParts (ps ++ [.leaf (.set .all)]))
      ('*' :: cs) := reaches_part rfl le_rfl
  have hstar : (afterParts (ps ++ [.leaf (.set .all)])).Reaches ('*' :: cs)
      (afterParts (ps ++ [runPart])) cs := by
    refine reaches_of_step? rfl ?_ le_rfl
    rw [step?, h, afterParts, List.reverse_append, afterParts, List.reverse_append]
    rfl
  exact hdot.trans hstar

lemma skipLazy_eq (h : cs.head? ≠ some '?') : skipLazy cs = cs := by
  unfold skipLazy
  split
  · exact absurd rfl h
  · rfl

/-- An escaped text does not begin with a question mark. -/
lemma head?_escape_append (part : List Char) (h : cs.head? ≠ some '?') :
    (escape part ++ cs).head? ≠ some '?' := by
  cases part with
  | nil => exact h
  | cons c part =>
    by_cases hc : c ∈ metaChars
    · rw [escape_cons_of_mem hc]
      nofun
    · rw [escape_cons_of_notMem hc]
      rintro hhead
      cases hhead
      exact hc (by decide)

end Reader

end Daybook.Pattern
