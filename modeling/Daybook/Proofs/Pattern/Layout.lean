import Daybook.Pattern.Layout
import Mathlib

/-!
# What layouts take

A step in the layout of a plan `Takes` some bytes if it adds no more than that and has a result as long as so
many are left. States that are shared can only make a set of characters smaller, so the room for one can be
told from its ranges (`Layout.takes_addSet?`).
-/

namespace Daybook.Pattern

open Unicode (ByteRange)

namespace Layout

variable {α : Type} {f : Layout → Option Layout} {m n : Nat}

/-- The step adds a number of bytes at most, and has a result if there is room for so many. -/
def Takes (f : Layout → Option Layout) (n : Nat) : Prop :=
  ∀ l : Layout, l.bytes + n ≤ limit → ∃ next, f l = some next ∧ next.bytes ≤ l.bytes + n

/-! ### States -/

lemma Takes.mono (h : Takes f m) (hle : m ≤ n) : Takes f n := by
  intro l hl
  obtain ⟨next, hnext, hbytes⟩ := h l (by omega)
  exact ⟨next, hnext, by omega⟩

lemma takes_add? (states extra : Nat) : Takes (·.add? states extra) (states * frame + extra) := by
  intro l hl
  have hbytes : (⟨l.states + states, l.extra + extra, false⟩ : Layout).bytes =
      l.bytes + (states * frame + extra) := by
    simp only [bytes]
    ring
  refine ⟨_, if_pos ?_, hbytes.le⟩
  exact hbytes.le.trans hl

lemma takes_push? : Takes push? frame := by
  have h := takes_add? 1 0
  rwa [Nat.one_mul, Nat.add_zero] at h

lemma bytes_link (l : Layout) (entries : Nat) : (l.link entries).bytes = l.bytes + entry * entries := by
  simp only [bytes, link]
  ring

lemma bytes_connect_le (l : Layout) : l.connect.bytes ≤ l.bytes + entry := by
  rw [connect]
  split
  · exact (bytes_link l 1).le
  · exact Nat.le_add_right _ _

/-! ### Sets -/

/-- What a step with shared states adds is bounded likewise. -/
def SharedTakes {β : Type} (f : Shared α → Option (β × Shared α)) (n : Nat) : Prop :=
  ∀ s : Shared α, s.layout.bytes + n ≤ limit →
    ∃ b next, f s = some (b, next) ∧ next.layout.bytes ≤ s.layout.bytes + n

/-- A state that is found takes no room, and one that is not is added. -/
lemma sharedTakes_find? [DecidableEq α] (slot : Nat) (contents : α) (h : Takes f n) :
    SharedTakes (·.find? slot contents f) n := by
  intro s hs
  obtain ⟨next, hnext, hle⟩ := h s.layout hs
  have hfresh : ∃ b added, (f s.layout).map (fun layout => (s.layout.states, (⟨layout,
      s.table.insert slot (contents, s.layout.states)⟩ : Shared α))) = some (b, added) ∧
      added.layout.bytes ≤ s.layout.bytes + n := by
    rw [hnext]
    exact ⟨_, _, rfl, hle⟩
  dsimp only [Shared.find?]
  cases s.table[slot]? with
  | none => exact hfresh
  | some known =>
    by_cases hknown : known.1 = contents
    · exact ⟨known.2, s, if_pos hknown, Nat.le_add_right _ _⟩
    · dsimp only
      rw [if_neg hknown]
      exact hfresh

/-- The room for sequences of at most `depth` bytes that share nothing. -/
def sequencesRoom : Nat → List (List ByteRange) → Nat
  | 0,         _         => 0
  | depth + 1, sequences =>
    if sequences.all (·.isEmpty) then 0
    else ((groupByFirst sequences).map fun group => sequencesRoom depth group.2).sum +
      (frame + transition * (groupByFirst sequences).length)

/-- Add an edge for sequences that begin alike. -/
def addGroup? (target depth : Nat) : List Edge × Shared (List Edge) →
    ByteRange × List (List ByteRange) → Option (List Edge × Shared (List Edge))
  | (edges, s), (range, rests) => do
    let (next, s) ← readSequences? target depth rests s
    some (⟨range, next⟩ :: edges, s)

lemma foldlM_addGroup? {target depth : Nat}
    (h : ∀ rests, SharedTakes (readSequences? target depth rests) (sequencesRoom depth rests))
    (groups : List (ByteRange × List (List ByteRange))) (edges : List Edge) (s : Shared (List Edge))
    (hs : s.layout.bytes + (groups.map fun group => sequencesRoom depth group.2).sum ≤ limit) :
    ∃ more next, groups.foldlM (addGroup? target depth) (edges, s) = some (more, next) ∧
      more.length = edges.length + groups.length ∧ next.layout.bytes ≤
        s.layout.bytes + (groups.map fun group => sequencesRoom depth group.2).sum := by
  induction groups generalizing edges s with
  | nil => exact ⟨edges, s, rfl, rfl, Nat.le_refl _⟩
  | cons group groups ih =>
    rw [List.map_cons, List.sum_cons] at hs ⊢
    obtain ⟨state, middle, hread, hmiddle⟩ := h group.2 s (by omega)
    obtain ⟨more, next, hmore, hlength, hnext⟩ := ih (⟨group.1, state⟩ :: edges) middle (by omega)
    refine ⟨more, next, ?_, ?_, by omega⟩
    · rw [List.foldlM_cons, addGroup?, hread]
      exact hmore
    · rw [hlength, List.length_cons, List.length_cons]
      omega

lemma sharedTakes_readSequences? (target depth : Nat) (sequences : List (List ByteRange)) :
    SharedTakes (readSequences? target depth sequences) (sequencesRoom depth sequences) := by
  induction depth generalizing sequences with
  | zero => exact fun s _ => ⟨target, s, rfl, Nat.le_add_right _ _⟩
  | succ depth ih =>
    intro s hs
    rw [readSequences?]
    rw [sequencesRoom] at hs ⊢
    by_cases hempty : sequences.all (·.isEmpty) = true
    · rw [if_pos hempty]
      exact ⟨target, s, rfl, Nat.le_add_right _ _⟩
    · rw [if_neg hempty] at hs ⊢
      rw [if_neg hempty]
      obtain ⟨edges, middle, hedges, hlength, hmiddle⟩ :=
        foldlM_addGroup? ih (groupByFirst sequences) [] s (by omega)
      have hcount : edges.reverse.length = (groupByFirst sequences).length := by
        rw [List.length_reverse, hlength, List.length_nil, Nat.zero_add]
      have hadd := takes_add? 1 (transition * edges.reverse.length)
      rw [hcount, Nat.one_mul] at hadd
      obtain ⟨state, next, hfind, hnext⟩ := sharedTakes_find?
        (slotOf 10000 (edges.reverse.flatMap Edge.numbers)) edges.reverse hadd middle (by omega)
      refine ⟨state, next, ?_, by omega⟩
      rw [← hcount] at hfind
      exact (congrArg (· >>= _) hedges).trans hfind

lemma takes_addForwards? (sequences : List (List ByteRange)) :
    Takes (addForwards? sequences) (frame + sequencesRoom 4 sequences) := by
  intro l hl
  obtain ⟨pushed, hpushed, hle⟩ := takes_push? l (by omega)
  obtain ⟨state, next, hread, hnext⟩ :=
    sharedTakes_readSequences? l.states 4 sequences ⟨pushed, ∅⟩ (by dsimp only; omega)
  refine ⟨next.layout, ?_, by dsimp only at hnext; omega⟩
  rw [addForwards?, hpushed]
  exact congrArg (· >>= _) hread

/-- The room for sequences that are laid out byte by byte. -/
def bytesRoom (sequences : List (List ByteRange)) : Nat :=
  (sequences.map fun sequence => frame * sequence.length + entry).sum

/-- Add a state that reads a byte and leads to another one. -/
def addByte? : Nat × Shared Edge → ByteRange → Option (Nat × Shared Edge)
  | (target, s), range =>
    s.find? (slotOf 1000 [target, range.low, range.high]) (⟨range, target⟩ : Edge) push?

lemma foldlM_addByte? (sequence : List ByteRange) (target : Nat) (s : Shared Edge)
    (hs : s.layout.bytes + frame * sequence.length ≤ limit) :
    ∃ reached next, sequence.foldlM addByte? (target, s) = some (reached, next) ∧
      next.layout.bytes ≤ s.layout.bytes + frame * sequence.length := by
  induction sequence generalizing target s with
  | nil => exact ⟨target, s, rfl, Nat.le_add_right _ _⟩
  | cons range sequence ih =>
    rw [List.length_cons, Nat.mul_succ] at hs ⊢
    obtain ⟨state, middle, hfind, hmiddle⟩ := sharedTakes_find?
      (slotOf 1000 [target, range.low, range.high]) (⟨range, target⟩ : Edge) takes_push? s (by omega)
    obtain ⟨reached, next, hrest, hnext⟩ := ih state middle (by omega)
    refine ⟨reached, next, ?_, by omega⟩
    rw [List.foldlM_cons]
    exact (congrArg (· >>= _) hfind).trans hrest

/-- Add states for a sequence, the end of which leads to the last one. -/
def addSequence? (last : Nat) (s : Shared Edge) (sequence : List ByteRange) :
    Option (Shared Edge) := do
  let (_, s) ← sequence.foldlM addByte? (last, s)
  some { s with layout := s.layout.link 1 }

lemma foldlM_addSequence? (last : Nat) (sequences : List (List ByteRange)) (s : Shared Edge)
    (hs : s.layout.bytes + bytesRoom sequences ≤ limit) :
    ∃ next, sequences.foldlM (addSequence? last) s = some next ∧
      next.layout.bytes ≤ s.layout.bytes + bytesRoom sequences := by
  induction sequences generalizing s with
  | nil => exact ⟨s, rfl, Nat.le_add_right _ _⟩
  | cons sequence sequences ih =>
    rw [bytesRoom, List.map_cons, List.sum_cons, ← bytesRoom] at hs ⊢
    obtain ⟨reached, middle, hread, hmiddle⟩ := foldlM_addByte? sequence last s (by omega)
    have hlink := bytes_link middle.layout 1
    obtain ⟨next, hrest, hnext⟩ := ih { middle with layout := middle.layout.link 1 }
      (by dsimp only; omega)
    refine ⟨next, ?_, by dsimp only at hnext; omega⟩
    rw [List.foldlM_cons, addSequence?, hread]
    exact hrest

lemma takes_addBackwards? (sequences : List (List ByteRange)) :
    Takes (addBackwards? sequences) (2 * frame + bytesRoom sequences) := by
  intro l hl
  obtain ⟨added, hadded, hle⟩ := takes_add? 2 0 l (by omega)
  obtain ⟨next, hrest, hnext⟩ :=
    foldlM_addSequence? (l.states + 1) sequences ⟨added, ∅⟩ (by dsimp only; omega)
  refine ⟨next.layout, ?_, by dsimp only at hnext; omega⟩
  rw [addBackwards?]
  exact (congrArg (· >>= _) hadded).trans (congrArg (· >>= _) hrest)

/-- The room for a set of characters, given by its ranges. -/
def setRoom (ranges : List (Nat × Nat)) : Nat :=
  let sequences := ranges.flatMap fun (low, high) => Unicode.bytesOfRange low high
  2 * frame + transition * ranges.length + max (sequencesRoom 4 sequences) (bytesRoom sequences)

lemma takes_addSet? (d : Direction) (ranges : List (Nat × Nat)) :
    Takes (addSet? d ranges) (setRoom ranges) := by
  intro l hl
  rw [addSet?]
  dsimp only [setRoom] at hl ⊢
  -- ASCII alone needs one state for all ranges; otherwise the ranges are cut into sequences of bytes
  by_cases hascii : (ranges.all fun (_, high) => high < 0x80) = true
  · rw [if_pos hascii]
    exact (takes_add? 2 (transition * ranges.length)).mono (Nat.le_add_right _ _) l hl
  · rw [if_neg hascii]
    cases d with
    | forwards =>
      refine (takes_addForwards? _).mono ?_ l hl
      omega
    | backwards =>
      refine (takes_addBackwards? _).mono ?_ l hl
      omega

/-! ### Texts -/

lemma length_bytesOfText_le (d : Direction) (cs : List Char) :
    (bytesOfText d cs).length ≤ 4 * cs.length := by
  have hchar (c : Char) : (String.utf8EncodeChar c).length ≤ 4 := by
    rw [String.length_utf8EncodeChar]
    exact c.utf8Size_le_four
  induction cs with
  | nil => cases d <;> exact Nat.le_refl 0
  | cons c cs ih =>
    have hc := hchar c
    cases d with
    | forwards =>
      rw [bytesOfText] at ih ⊢
      rw [List.flatMap_cons, List.length_append, List.length_map, List.length_cons]
      omega
    | backwards =>
      rw [bytesOfText] at ih ⊢
      rw [List.flatMap_cons, List.length_append, List.length_reverse, List.length_map,
        List.length_cons]
      omega

end Layout

end Daybook.Pattern
