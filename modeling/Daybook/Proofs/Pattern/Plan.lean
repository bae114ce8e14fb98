import Daybook.Pattern.Plan
import Mathlib

/-!
# Plans of literal texts

A literal text is read as one character after another, each of them a set that holds nothing else. In the
plan of a row they make up one text again (`Plan.join_text`).
-/

namespace Daybook

/-! ### Single characters -/

namespace Unicode.CodeSet

variable {n : Nat}

lemma ofRanges_point (n : Nat) : ofRanges [(n, n)] = ⟨#[n, n + 1]⟩ := by
  simp [ofRanges, addRange, toggle, empty]

/-- A point that is a character is one of the characters. -/
lemma inter_scalarValues (h : n < 0xD800 ∨ 0xDFFF < n ∧ n < 0x110000) :
    inter ⟨#[n, n + 1]⟩ CharSet.scalarValues = ⟨#[n, n + 1]⟩ := by
  have hscalar : CharSet.scalarValues = ⟨#[0, 0xD800, 0xE000, 0x110000]⟩ := rfl
  rw [hscalar, inter, combine]
  -- the changes are merged; where both sets change at the point, those of the first one go before
  rcases h with hlow | ⟨hhigh, hlast⟩
  · have hend : n ≤ 0xD800 := by omega
    have hnext : n + 1 ≤ 0xD800 := by omega
    by_cases hzero : n = 0
    · subst hzero
      simp [allChanges, Combination.step, toggle, empty]
    · simp [allChanges, hzero, hend, hnext, Combination.step, toggle, empty]
  · have hstart : ¬ n ≤ 0xD800 := by omega
    have hend : n ≤ 0x110000 := by omega
    have hnext : n + 1 ≤ 0x110000 := by omega
    by_cases hfirst : n = 0xE000
    · subst hfirst
      simp [allChanges, Combination.step, toggle, empty]
    · have hinside : ¬ n ≤ 0xE000 := by omega
      have hzero : n ≠ 0 := by omega
      simp [allChanges, hzero, hstart, hinside, hend, hnext, Combination.step, toggle, empty]

end Unicode.CodeSet

lemma CharSet.toRanges_singleton (c : Char) : (singleton c).toRanges = [(c.toNat, c.toNat)] := by
  have hset : (singleton c).codeSet = ⟨#[c.toNat, c.toNat + 1]⟩ := by
    rw [singleton, codeSet, if_pos le_rfl, Unicode.CodeSet.ofRanges_point]
  have hchar : c.toNat < 0xD800 ∨ 0xDFFF < c.toNat ∧ c.toNat < 0x110000 := c.valid
  rw [toRanges, hset, Unicode.CodeSet.inter_scalarValues hchar]
  rfl

lemma CharSet.toRanges_all : all.toRanges = [(0, 0xD7FF), (0xE000, 0x10FFFF)] := by
  have hscalar : scalarValues = ⟨#[0, 0xD800, 0xE000, 0x110000]⟩ := rfl
  rw [toRanges, hscalar]
  simp [codeSet, Unicode.CodeSet.all, Unicode.CodeSet.inter, Unicode.CodeSet.combine,
    Unicode.CodeSet.allChanges, Unicode.CodeSet.Combination.step, Unicode.CodeSet.toggle,
    Unicode.CodeSet.empty, Unicode.CodeSet.ranges, Unicode.CodeSet.pairUp]

/-! ### Rows -/

namespace Pattern.Plan

variable {ps qs : List Plan}

lemma ofTrees_eq_map (ts : List Tree) : ofTrees ts = ts.map ofTree := by
  induction ts with
  | nil => rw [ofTrees, List.map_nil]
  | cons t ts ih => rw [ofTrees, ih, List.map_cons]

/-- The pieces of plans, put before others. -/
def join (ps rest : List Plan) : List Plan := (ps.flatMap pieces).foldr before rest

lemma join_cons (p : Plan) (ps rest : List Plan) :
    join (p :: ps) rest = p.pieces.foldr before (join ps rest) := by
  rw [join, List.flatMap_cons, List.foldr_append]
  rfl

lemma join_append (ps qs rest : List Plan) : join (ps ++ qs) rest = join ps (join qs rest) := by
  rw [join, List.flatMap_append, List.foldr_append]
  rfl

lemma concat_congr (h : join ps [] = join qs []) : concat ps = concat qs := by
  rw [join, join] at h
  rw [concat, concat, h]

/-! ### Texts -/

/-- The plan for characters as they are. -/
def literal (cs : List Char) : Plan := if cs.isEmpty then .empty else .text cs

/-- The plan for a run of any characters. -/
def run : Plan := (ofRanges CharSet.all.toRanges).repeated 0 none

lemma ofTree_singleton (c : Char) : ofTree (.set (.singleton c)) = text [c] := by
  rw [ofTree, CharSet.toRanges_singleton, ofRanges, if_pos rfl, Char.ofNat_toNat]

/-- A character before a text belongs to that. -/
lemma before_text (c : Char) (cs : List Char) (rest : List Plan) :
    before (text [c]) (before (text cs) rest) = before (text (c :: cs)) rest := by
  cases rest with
  | nil => rfl
  | cons p rest => cases p <;> rfl

/-- Characters in a row make up one text, if there are any. -/
lemma join_text (cs : List Char) (rest : List Plan) :
    join (cs.map fun c => text [c]) rest = (literal cs).pieces.foldr before rest := by
  induction cs with
  | nil => rfl
  | cons c cs ih =>
    rw [List.map_cons, join_cons, ih]
    cases cs with
    | nil => rfl
    | cons d cs => exact before_text c (d :: cs) rest

end Pattern.Plan

end Daybook
