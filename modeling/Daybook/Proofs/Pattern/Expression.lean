import Daybook.Pattern.Basic
import Daybook.Proofs.Pattern.Reading
import Daybook.Proofs.Pattern.Reads
import Daybook.Proofs.Pattern.Room
import Daybook.Proofs.Pattern.Wildcard
import Mathlib

/-!
# Wildcards as expressions

A wildcard is a short way to write a regular expression: its literal parts are escaped, a dot with a star
stands between them, and anchors hold both ends (`Wildcard.expression`). That expression takes the same room
as the wildcard (`Wildcard.ofTree_tree`) and matches the same texts: both cover what begins with the first
part and has runs before the others.
-/

namespace Daybook

open Pattern Regex

namespace Pattern

/-! ### Rows of trees -/

namespace Tree

variable {t : Tree} {ts : List Tree} {before? after? : Option Char} {c : Char} {cs part : List Char}

/-- The first of a row of trees reads something, and the others read what follows. -/
lemma reads_row : (regexOfSeq (t :: ts)).Reads before? cs after? ↔
    ∃ first second, cs = first ++ second ∧ t.regex.Reads before? first (second.head?.or after?) ∧
      (regexOfSeq ts).Reads (first.getLast?.or before?) second after? := by
  cases ts with
  | cons u ts => exact reads_seq
  | nil =>
    constructor
    · intro h
      exact ⟨cs, [], (List.append_nil cs).symm, h, reads_empty.2 rfl⟩
    · rintro ⟨first, second, rfl, hfirst, hsecond⟩
      obtain rfl := reads_empty.1 hsecond
      rw [List.append_nil]
      exact hfirst

lemma reads_empty_row : (regexOfSeq (.empty :: ts)).Reads before? cs after? ↔
    (regexOfSeq ts).Reads before? cs after? := by
  rw [reads_row]
  constructor
  · rintro ⟨first, second, rfl, hfirst, hsecond⟩
    obtain rfl := reads_empty.1 hfirst
    exact hsecond
  · intro h
    exact ⟨[], cs, rfl, reads_empty.2 rfl, h⟩

lemma reads_anchor_row {a : Anchor} : (regexOfSeq (.anchor a :: ts)).Reads before? cs after? ↔
    a.holds ⟨before?, cs.head?.or after?⟩ = true ∧ (regexOfSeq ts).Reads before? cs after? := by
  rw [reads_row]
  constructor
  · rintro ⟨first, second, rfl, hfirst, hsecond⟩
    obtain ⟨rfl, ha⟩ := reads_anchor.1 hfirst
    exact ⟨ha, hsecond⟩
  · rintro ⟨ha, h⟩
    exact ⟨[], cs, rfl, reads_anchor.2 ⟨rfl, ha⟩, h⟩

lemma reads_ofChar_row : (regexOfSeq (ofChar c :: ts)).Reads before? cs after? ↔
    ∃ rest, cs = c :: rest ∧ (regexOfSeq ts).Reads (some c) rest after? := by
  rw [reads_row]
  constructor
  · rintro ⟨first, second, rfl, hfirst, hsecond⟩
    obtain ⟨d, rfl, hd⟩ := reads_set.1 hfirst
    rw [CharSet.contains_singleton, decide_eq_true_iff] at hd
    subst hd
    exact ⟨second, rfl, hsecond⟩
  · rintro ⟨rest, rfl, h⟩
    have hc : (CharSet.singleton c).contains c = true := by
      rw [CharSet.contains_singleton, decide_eq_true_iff]
    exact ⟨[c], rest, rfl, reads_set.2 ⟨c, rfl, hc⟩, h⟩

/-- Trees for characters read those characters. -/
lemma reads_text_row : (regexOfSeq (part.map ofChar ++ ts)).Reads before? cs after? ↔
    ∃ rest, cs = part ++ rest ∧ (regexOfSeq ts).Reads (part.getLast?.or before?) rest after? := by
  induction part generalizing before? cs with
  | nil =>
    constructor
    · intro h
      exact ⟨cs, rfl, h⟩
    · rintro ⟨rest, rfl, h⟩
      exact h
  | cons c part ih =>
    rw [List.map_cons, List.cons_append, reads_ofChar_row, getLast?_cons_or]
    constructor
    · rintro ⟨_, rfl, h⟩
      obtain ⟨rest, rfl, hrest⟩ := ih.1 h
      exact ⟨rest, rfl, hrest⟩
    · rintro ⟨rest, rfl, h⟩
      exact ⟨part ++ rest, rfl, ih.2 ⟨rest, rfl, h⟩⟩

lemma reads_run_row : (regexOfSeq (run :: ts)).Reads before? cs after? ↔
    ∃ first rest, cs = first ++ rest ∧
      (regexOfSeq ts).Reads (first.getLast?.or before?) rest after? := by
  rw [reads_row]
  constructor
  · rintro ⟨first, rest, rfl, _, h⟩
    exact ⟨first, rest, rfl, h⟩
  · rintro ⟨first, rest, rfl, h⟩
    exact ⟨first, rest, rfl, reads_run, h⟩

end Tree

end Pattern

namespace Wildcard

variable {α β : Type} {source text : String} {before? after? : Option Char} {cs first : List Char}
  {others : List (List Char)} {ps : List Part}

/-! ### The tree of a wildcard -/

/-- Literal parts with runs between them, by what stands for a character and for a run. -/
def row (char : Char → α) (run : α) (first : List Char) (others : List (List Char)) : List α :=
  first.map char ++ others.flatMap fun part => run :: part.map char

lemma map_row (f : α → β) (char : Char → α) (run : α) :
    (row char run first others).map f = row (fun c => f (char c)) (f run) first others := by
  rw [row, row, List.map_append, List.map_map, List.map_flatMap]
  simp only [List.map_cons, List.map_map]
  rfl

/-- What a wildcard stands for: the row of its parts, held at both ends of the text. The empty tree in front
is what remains of the flags. -/
def tree (source : String) : Tree :=
  .seq (.empty :: .anchor .textStart ::
    (row .ofChar .run (parts source.toList).1 (parts source.toList).2 ++ [.anchor .textEnd]))

/-- Runs and parts read up to the end of a text that has a run before each of the parts. -/
lemma reads_others :
    (Tree.regexOfSeq (others.flatMap (fun part => Tree.run :: part.map Tree.ofChar) ++
      [.anchor .textEnd])).Reads before? cs after? ↔ RunsBefore others cs ∧ after? = none := by
  induction others generalizing before? cs with
  | nil =>
    rw [runsBefore_nil, ← Option.isNone_iff_eq_none]
    exact reads_anchor
  | cons part others ih =>
    rw [List.flatMap_cons, List.append_assoc, List.cons_append, Tree.reads_run_row, runsBefore_cons]
    simp only [Tree.reads_text_row, ih]
    constructor
    · rintro ⟨run, _, rfl, rest, rfl, h, hend⟩
      exact ⟨⟨run, rest, (List.append_assoc ..).symm, h⟩, hend⟩
    · rintro ⟨⟨run, rest, rfl, h⟩, hend⟩
      exact ⟨run, part ++ rest, List.append_assoc .., rest, rfl, h, hend⟩

/-- The tree reads whole texts only. -/
lemma reads_tree : (tree source).regex.Reads before? cs after? ↔
    before? = none ∧ after? = none ∧ ∃ rest, cs = (parts source.toList).1 ++ rest ∧
      RunsBefore (parts source.toList).2 rest := by
  rw [tree, Tree.regex, Tree.reads_empty_row, Tree.reads_anchor_row, row, List.append_assoc,
    Tree.reads_text_row]
  simp only [reads_others, Anchor.holds, Option.isNone_iff_eq_none]
  constructor
  · rintro ⟨hstart, rest, hcs, hrest, hend⟩
    exact ⟨hstart, hend, rest, hcs, hrest⟩
  · rintro ⟨hstart, hend, rest, hcs, hrest⟩
    exact ⟨hstart, rest, hcs, hrest, hend⟩

/-- The tree matches the texts that the wildcard covers. -/
theorem tree_isMatch (source text : String) :
    (tree source).regex.isMatch text = covers source text := by
  rw [Bool.eq_iff_iff, isMatch_iff, covers_iff]
  simp only [reads_tree, List.getLast?_eq_none_iff, List.head?_eq_none_iff]
  constructor
  · rintro ⟨_, found, _, htext, rfl, rfl, hfound⟩
    rw [List.nil_append, List.append_nil] at htext
    rw [htext]
    exact hfound
  · intro h
    exact ⟨[], text.toList, [], (List.append_nil _).symm, rfl, rfl, h⟩

/-! ### The plan of the tree -/

/-- Character by character or part by part, a row has the same normal form. -/
lemma join_row (first : List Char) (others : List (List Char)) (rest : List Plan) :
    Plan.join (row (fun c => Plan.text [c]) Plan.run first others) rest =
      Plan.join (Plan.literal first ::
        others.flatMap fun part => [Plan.run, Plan.literal part]) rest := by
  rw [row, Plan.join_append, Plan.join_text, Plan.join_cons]
  congr 1
  induction others with
  | nil => rfl
  | cons part others ih =>
    rw [List.flatMap_cons, Plan.join_append, Plan.join_cons, Plan.join_text, ih, List.flatMap_cons,
      Plan.join_append, Plan.join_cons, Plan.join_cons]
    rfl

/-- The plan for the tree is the wildcard's own. -/
theorem ofTree_tree (source : String) : Plan.ofTree (tree source) = plan source := by
  have hchar : (fun c => Plan.ofTree (Tree.ofChar c)) = fun c => Plan.text [c] :=
    funext Plan.ofTree_singleton
  have hrun : Plan.ofTree Tree.run = Plan.run := rfl
  rw [tree, Plan.ofTree, Plan.ofTrees_eq_map, plan_eq, planRow]
  apply Plan.concat_congr
  rw [List.map_cons, List.map_cons, List.map_append, map_row, hchar, hrun, Plan.join_cons,
    Plan.join_cons, Plan.join_append, join_row, ← Plan.join_append, Plan.join_cons]
  rfl

/-! ### The text of the expression -/

/-- The regular expression that a wildcard is short for. -/
def expression (source : String) : String :=
  String.ofList ("(?s)^".toList ++
    List.intercalate ".*".toList ((source.toList.splitOn '%').map escape) ++ "$".toList)

lemma intercalate_cons (separator part : List Char) (others : List (List Char)) :
    List.intercalate separator (part :: others) = part ++ others.flatMap (separator ++ ·) := by
  induction others generalizing part with
  | nil => rw [List.intercalate_singleton, List.flatMap_nil, List.append_nil]
  | cons next others ih =>
    rw [List.intercalate_cons_cons, ih, List.flatMap_cons, List.append_assoc, List.append_assoc]

lemma toList_expression (source : String) : (expression source).toList = "(?s)".toList ++ '^' ::
    (escape (parts source.toList).1 ++
      ((parts source.toList).2.flatMap (fun part => ".*".toList ++ escape part) ++ ['$'])) := by
  have hstart : "(?s)^".toList = "(?s)".toList ++ ['^'] := rfl
  have hend : "$".toList = ['$'] := rfl
  unfold expression
  rw [String.toList_ofList, splitOn_eq, List.map_cons, intercalate_cons, List.flatMap_map, hstart,
    hend]
  simp only [List.append_assoc, List.cons_append, List.nil_append]

/-- No question mark follows a run in the expression. -/
lemma head?_others (others : List (List Char)) (h : cs.head? ≠ some '?') :
    (others.flatMap (fun part => ".*".toList ++ escape part) ++ cs).head? ≠ some '?' := by
  cases others with
  | nil => exact h
  | cons part others => nofun

/-- Runs and escaped parts are read as such. -/
lemma reaches_others (others : List (List Char)) (ps : List Part) (h : cs.head? ≠ some '?') :
    (Reader.afterParts ps).Reaches
      (others.flatMap (fun part => ".*".toList ++ escape part) ++ cs)
      (.afterParts (ps ++ others.flatMap fun part => runPart :: part.map charPart)) cs := by
  induction others generalizing ps with
  | nil =>
    rw [List.flatMap_nil, List.flatMap_nil, List.append_nil]
    exact .refl _ _
  | cons part others ih =>
    -- a question mark behind the star would make the run a lazy one
    have hnext := Reader.head?_escape_append part (head?_others others h)
    have hrun := Reader.reaches_run ps (Reader.skipLazy_eq hnext)
    have hpart := Reader.reaches_escape (ps ++ [runPart]) part
      (others.flatMap (fun part => ".*".toList ++ escape part) ++ cs)
    have hothers := ih (ps ++ [runPart] ++ part.map charPart)
    rw [List.append_assoc ps, List.append_assoc ps] at hothers
    rw [List.append_assoc ps] at hpart
    rw [List.flatMap_cons, List.flatMap_cons, List.append_assoc, List.append_assoc]
    exact hrun.trans (hpart.trans hothers)

/-- The parts that the expression is read as. -/
def readParts (source : String) : List Part :=
  ⟨.empty, 0, false⟩ :: .leaf (.anchor .textStart) ::
    (row charPart runPart (parts source.toList).1 (parts source.toList).2 ++
      [.leaf (.anchor .textEnd)])

lemma reaches_expression (source : String) :
    Reader.initial.Reaches (expression source).toList (.afterParts (readParts source)) [] := by
  rw [toList_expression, readParts, row]
  generalize (parts source.toList).1 = first
  generalize (parts source.toList).2 = others
  let rest := others.flatMap (fun part => ".*".toList ++ escape part) ++ ['$']
  let opened : List Part := [⟨.empty, 0, false⟩]
  let anchored := opened ++ [.leaf (.anchor .textStart)]
  -- flags, anchor, first part, runs with the other parts, anchor
  have hflags : Reader.initial.Reaches ("(?s)".toList ++ '^' :: (escape first ++ rest))
      (.afterParts opened) ('^' :: (escape first ++ rest)) := Reader.reaches_anyDot _
  have hstart : (Reader.afterParts opened).Reaches ('^' :: (escape first ++ rest))
      (.afterParts anchored) (escape first ++ rest) := Reader.reaches_part rfl le_rfl
  have hdollar : ['$'].head? ≠ some '?' := by decide
  have hfirst := Reader.reaches_escape anchored first rest
  have hothers := reaches_others others (anchored ++ first.map charPart) hdollar
  have hend : (Reader.afterParts (anchored ++ first.map charPart ++
      others.flatMap fun part => runPart :: part.map charPart)).Reaches ['$'] (.afterParts
        (anchored ++ first.map charPart ++ (others.flatMap fun part => runPart :: part.map charPart) ++
          [.leaf (.anchor .textEnd)])) [] := Reader.reaches_part rfl le_rfl
  exact hflags.trans (hstart.trans (hfirst.trans (hothers.trans hend)))

lemma depth_le_of_mem_readParts {p : Part} (h : p ∈ readParts source) : p.depth ≤ 1 := by
  simp only [readParts, row, List.mem_cons, List.mem_append, List.mem_map, List.mem_flatMap,
    List.not_mem_nil, or_false] at h
  rcases h with rfl | rfl | (⟨c, _, rfl⟩ | ⟨part, _, rfl | ⟨c, _, rfl⟩⟩) | rfl
  · exact Nat.zero_le 1
  · exact Nat.zero_le 1
  · exact Nat.zero_le 1
  · exact Nat.le_refl 1
  · exact Nat.zero_le 1
  · exact Nat.zero_le 1

lemma map_tree_readParts (source : String) :
    Tree.seq ((readParts source).map (·.tree)) = tree source := by
  rw [readParts, List.map_cons, List.map_cons, List.map_append, map_row]
  rfl

/-- The expression is read as the tree. -/
lemma read?_expression (source : String) :
    ∃ depth ≤ 2, Reader.read? (expression source).toList = some ⟨tree source, depth, true⟩ := by
  have hparts : ∀ p ∈ readParts source, p.depth ≤ 1 := fun p hp => depth_le_of_mem_readParts hp
  obtain ⟨depth, hdepth, hjoin⟩ := joinParts_of_depth_le .seq hparts
  refine ⟨depth, hdepth, ?_⟩
  rw [Reader.read?_of_reaches (reaches_expression source) rfl, Reader.value_afterParts,
    ← map_tree_readParts]
  exact congrArg some hjoin

/-- The expression compiles if the wildcard does, to what the tree stands for. -/
theorem parse?_expression (source : String) :
    Regex.parse? (expression source) = (compile? source).map fun _ => (tree source).regex := by
  obtain ⟨depth, hdepth, hread⟩ := read?_expression source
  have hlimit : depth ≤ depthLimit := hdepth.trans (by decide)
  rw [Regex.parse?, hread]
  simp only [ofTree_tree, decide_true, hlimit, Bool.true_and]
  rw [compile?]
  by_cases hfits : (plan source).fits = true
  · rw [if_pos hfits, dif_pos hfits]
    rfl
  · rw [if_neg hfits, dif_neg hfits]
    rfl

/-! ### Matches -/

lemma source_of_compile? {w : Wildcard} (h : compile? source = some w) : w.source = source := by
  rw [compile?] at h
  split at h
  · cases h
    rfl
  · cases h

lemma map_isMatch_compile? (source text : String) :
    (RegexPattern.compile? source).map (·.isMatch text) =
      (Regex.parse? source).map (·.isMatch text) := by
  rw [RegexPattern.compile?]
  split
  · rename_i regex hparse
    exact congrArg (Option.map (·.isMatch text)) hparse.symm
  · rename_i hparse
    exact congrArg (Option.map (·.isMatch text)) hparse.symm

/-- A wildcard covers the texts that consist of what stands between its percent signs, with any characters in
place of these; without any, that is its own text. It matches what its regular expression does. -/
theorem isMatch_splitOn {w : Wildcard} (h : compile? source = some w) (text : String) :
    (w.isMatch text = true ↔ ∃ first others runs, source.toList.splitOn '%' = first :: others ∧
      runs.length = others.length ∧
      text.toList = first ++ (List.zipWith (· ++ ·) runs others).flatten) ∧
    ('%' ∉ source.toList → (w.isMatch text = true ↔ text = source)) ∧
    (RegexPattern.compile? (expression source)).map (·.isMatch text) = some (w.isMatch text) := by
  have hcovers : w.isMatch text = covers source text := by
    rw [isMatch, source_of_compile? h]
  rw [hcovers, covers_iff]
  refine ⟨?_, ?_, ?_⟩
  · rw [splitOn_eq]
    constructor
    · rintro ⟨_, htext, runs, hlength, rfl⟩
      exact ⟨_, _, runs, rfl, hlength, htext⟩
    · rintro ⟨first, others, runs, hcut, hlength, htext⟩
      obtain ⟨rfl, rfl⟩ := List.cons.inj hcut
      exact ⟨_, htext, runs, hlength, rfl⟩
  · -- without percent signs there is one part and no run
    intro hplain
    rw [parts_of_notMem hplain, ← String.toList_inj]
    constructor
    · rintro ⟨rest, htext, hrest⟩
      rw [runsBefore_nil.1 hrest, List.append_nil] at htext
      exact htext
    · intro htext
      exact ⟨[], by rw [htext, List.append_nil], runsBefore_nil.2 rfl⟩
  · rw [map_isMatch_compile?, parse?_expression, h]
    exact congrArg some (tree_isMatch source text)

/-- Any characters may stand for a percent sign, but only a dot for a dot. -/
theorem lunch_isMatch :
    (∃ w, compile? "lunch%w.th%" = some w ∧ w.isMatch "lunch\nw.th Bob" = true ∧
      w.isMatch "lunch with Bob" = false ∧
      (RegexPattern.compile? (expression "lunch%w.th%")).map (·.isMatch "lunch with Bob") =
        some false) ∧
    ∃ w, compile? "w.th Bob" = some w ∧ w.isMatch "w.th Bob" = true ∧
      w.isMatch "with Bob" = false := by
  have hlength : "lunch%w.th%".length ≤ 10000 := by decide
  have hlength' : "w.th Bob".length ≤ 10000 := by decide
  obtain ⟨w, hw⟩ := exists_compile? hlength
  obtain ⟨v, hv⟩ := exists_compile? hlength'
  have hother : w.isMatch "lunch with Bob" = false := by
    rw [isMatch, source_of_compile? hw]
    decide +kernel
  have hplain : '%' ∉ "w.th Bob".toList := by decide
  refine ⟨⟨w, hw, ?_, hother, ?_⟩, v, hv, ?_, ?_⟩
  · apply (isMatch_splitOn hw _).1.2
    refine ⟨"lunch".toList, ["w.th".toList, []], [['\n'], " Bob".toList], ?_, rfl, rfl⟩
    rw [splitOn_eq]
    rfl
  · rw [(isMatch_splitOn hw _).2.2, hother]
  · exact ((isMatch_splitOn hv _).2.1 hplain).2 rfl
  · rw [← Bool.not_eq_true, (isMatch_splitOn hv _).2.1 hplain]
    decide

end Wildcard

end Daybook
