import Daybook.Pattern.Wildcard
import Daybook.Proofs.Pattern.Layout
import Daybook.Proofs.Pattern.Plan
import Mathlib

/-!
# The room for wildcards

The plan of a wildcard is a row of texts, anchors and runs. What these take can be added up, in both
directions alike (`Plan.fits_ofRow`), and comes to a bounded number of bytes for each character. So a wildcard
compiles unless it is very long (`Wildcard.exists_compile?`).
-/

namespace Daybook.Pattern

namespace Plan

open Layout

variable {d : Direction} {p : Plan} {ps : List Plan} {n : Nat}

/-! ### Parts of plans -/

lemma takes_text (d : Direction) (cs : List Char) :
    Takes ((text cs).layOut? d) (4 * cs.length * frame) := by
  intro l hl
  rw [layOut?]
  refine (takes_add? (bytesOfText d cs).length 0).mono ?_ l hl
  rw [Nat.add_zero]
  exact Nat.mul_le_mul_right frame (length_bytesOfText_le d cs)

lemma takes_anchor (d : Direction) (a : Anchor) : Takes ((anchor a).layOut? d) frame := by
  intro l hl
  rw [layOut?]
  exact takes_push? l hl

/-- A set that may be repeated takes one more state. -/
lemma takes_times_set (d : Direction) {ranges : List (Nat × Nat)} (h : ranges ≠ []) :
    Takes ((times (set ranges) 0 none).layOut? d) (frame + setRoom ranges + 2 * entry) := by
  have hreads : (set ranges).leastLength?.any (0 < ·) = true := by
    rw [leastLength?, if_neg (List.isEmpty_iff.not.2 h)]
    rfl
  intro l hl
  obtain ⟨pushed, hpushed, hle⟩ := takes_push? l (by omega)
  obtain ⟨laid, hlaid, hle'⟩ := takes_addSet? d ranges pushed (by omega)
  have hconnect := bytes_connect_le laid
  have hlink := bytes_link laid.connect 1
  have hbranching : (laid.connect.link 1).branching.bytes = (laid.connect.link 1).bytes := rfl
  have hset : (set ranges).layOut? d pushed = some laid := by rw [layOut?, hlaid]
  refine ⟨(laid.connect.link 1).branching, ?_, by omega⟩
  rw [layOut?, hreads, addTimes?, if_pos rfl, hpushed, Option.bind_eq_bind, Option.bind_some, hset]
  rfl

/-- Plans in a row take what each of them takes, and a link from each to the next. -/
lemma takes_row {room : Plan → Nat} (h : ∀ p ∈ ps, Takes (p.layOut? d) (room p)) :
    Takes (layOutRow? d ps) (ps.map fun p => entry + room p).sum := by
  induction ps with
  | nil =>
    intro l hl
    exact ⟨l, by rw [layOutRow?], Nat.le_add_right _ _⟩
  | cons p ps ih =>
    obtain ⟨hp, hps⟩ := List.forall_mem_cons.1 h
    intro l hl
    rw [List.map_cons, List.sum_cons] at hl ⊢
    have hconnect := bytes_connect_le l
    obtain ⟨laid, hlaid, hle⟩ := hp l.connect (by omega)
    obtain ⟨next, hnext, hle'⟩ := ih hps laid (by omega)
    refine ⟨next, ?_, by omega⟩
    rw [layOutRow?, hlaid]
    exact hnext

/-! ### Searches -/

/-- The room that a search takes beyond the plan. -/
def searchRoom : Nat := 6 * frame + transition + 4 * entry

/-- What a search begins with. -/
def begin? (p : Plan) : Option Layout :=
  if p.isAnchored then Layout.none.push?
  else (Layout.none.add? 3 transition).map (·.link 2)

/-- Lay a plan out behind what the search for it begins with. -/
def layOutFrom? (d : Direction) (p : Plan) (l : Layout) : Option Layout :=
  match d with
  | .forwards => do
    let l ← p.layOut? d (← l.push?)
    let l ← l.connect.push?
    l.connect.push?
  | .backwards => do
    let l ← p.layOut? d l
    l.connect.push?

lemma layOutSearch?_eq (d : Direction) (p : Plan) :
    p.layOutSearch? d = p.begin? >>= p.layOutFrom? d := by
  rw [layOutSearch?, begin?]
  split
  all_goals cases d <;> rfl

lemma exists_begin? (p : Plan) :
    ∃ begun, p.begin? = some begun ∧ begun.bytes ≤ 3 * frame + transition + 2 * entry := by
  rw [begin?]
  split
  · exact ⟨_, rfl, by decide⟩
  · exact ⟨_, rfl, by decide⟩

lemma takes_layOutFrom? (h : Takes (p.layOut? d) n) :
    Takes (p.layOutFrom? d) (n + (3 * frame + 2 * entry)) := by
  intro l hl
  cases d with
  | forwards =>
    obtain ⟨pushed, hpushed, hpushedLe⟩ := takes_push? l (by omega)
    obtain ⟨laid, hlaid, hlaidLe⟩ := h pushed (by omega)
    have hconnect := bytes_connect_le laid
    obtain ⟨kept, hkept, hkeptLe⟩ := takes_push? laid.connect (by omega)
    have hconnect' := bytes_connect_le kept
    obtain ⟨last, hlast, hlastLe⟩ := takes_push? kept.connect (by omega)
    refine ⟨last, ?_, by omega⟩
    simp only [layOutFrom?, hpushed, hlaid, hkept, hlast, Option.bind_eq_bind, Option.bind_some]
  | backwards =>
    obtain ⟨laid, hlaid, hlaidLe⟩ := h l (by omega)
    have hconnect := bytes_connect_le laid
    obtain ⟨last, hlast, hlastLe⟩ := takes_push? laid.connect (by omega)
    refine ⟨last, ?_, by omega⟩
    simp only [layOutFrom?, hlaid, hlast, Option.bind_eq_bind, Option.bind_some]

lemma isSome_layOutSearch? (h : Takes (p.layOut? d) n) (hn : n + searchRoom ≤ limit) :
    (p.layOutSearch? d).isSome = true := by
  rw [searchRoom] at hn
  obtain ⟨begun, hbegun, hle⟩ := exists_begin? p
  obtain ⟨laid, hlaid, -⟩ := takes_layOutFrom? h begun (by omega)
  rw [layOutSearch?_eq, hbegun, Option.bind_eq_bind, Option.bind_some, hlaid]
  rfl

/-- A plan whose parts take little enough room in both directions fits. -/
theorem fits_of_takes (h : Takes (p.layOut? .forwards) n)
    (h' : Takes (p.reversed.layOut? .backwards) n) (hn : n + searchRoom ≤ limit) :
    p.fits = true := by
  rw [fits, Bool.and_eq_true]
  exact ⟨isSome_layOutSearch? h hn, isSome_layOutSearch? h' hn⟩

/-! ### Rows of texts, anchors and runs -/

/-- The plan is one of those that the row for a wildcard consists of. -/
def IsPiece (p : Plan) : Prop := (∃ cs, p = text cs) ∨ (∃ a, p = anchor a) ∨ p = run

lemma run_eq : run = times (set [(0, 0xD7FF), (0xE000, 0x10FFFF)]) 0 none := by
  rw [run, CharSet.toRanges_all]
  rfl

/-- The room for a run of any characters. -/
def runRoom : Nat := frame + setRoom [(0, 0xD7FF), (0xE000, 0x10FFFF)] + 2 * entry

def pieceRoom : Plan → Nat
  | text cs     => 4 * cs.length * frame
  | times _ _ _ => runRoom
  | _           => frame

/-- The room for a row of pieces. -/
def rowRoom (ps : List Plan) : Nat := (ps.map fun p => entry + pieceRoom p).sum

lemma IsPiece.takes (h : p.IsPiece) (d : Direction) : Takes (p.layOut? d) (pieceRoom p) := by
  rcases h with ⟨cs, rfl⟩ | ⟨a, rfl⟩ | rfl
  · exact takes_text d cs
  · exact takes_anchor d a
  · rw [run_eq]
    exact takes_times_set d (List.cons_ne_nil _ _)

lemma IsPiece.reversed (h : p.IsPiece) : p.reversed.IsPiece ∧ pieceRoom p.reversed = pieceRoom p := by
  rcases h with ⟨cs, rfl⟩ | ⟨a, rfl⟩ | rfl
  · rw [Plan.reversed]
    refine ⟨.inl ⟨_, rfl⟩, ?_⟩
    rw [pieceRoom, List.length_reverse, pieceRoom]
  · rw [Plan.reversed]
    exact ⟨.inr (.inl ⟨_, rfl⟩), rfl⟩
  · have hrun : run.reversed = run := by
      rw [run_eq, Plan.reversed, Plan.reversed]
    rw [hrun]
    exact ⟨.inr (.inr rfl), rfl⟩

lemma rowRoom_cons (p : Plan) (ps : List Plan) :
    rowRoom (p :: ps) = entry + pieceRoom p + rowRoom ps := by
  rw [rowRoom, List.map_cons, List.sum_cons]
  rfl

lemma rowRoom_append (ps qs : List Plan) : rowRoom (ps ++ qs) = rowRoom ps + rowRoom qs := by
  rw [rowRoom, List.map_append, List.sum_append]
  rfl

/-- Texts that are joined take no more room than they did. -/
lemma rowRoom_before_le (p : Plan) (ps : List Plan) :
    rowRoom (before p ps) ≤ entry + pieceRoom p + rowRoom ps := by
  unfold before
  split
  · -- two texts are one after joining, and the link between them is saved
    rw [rowRoom_cons, rowRoom_cons, pieceRoom, pieceRoom, pieceRoom, List.length_append]
    have hsum (m n : Nat) : 4 * (m + n) * frame = 4 * m * frame + 4 * n * frame := by ring
    rw [hsum]
    omega
  · exact (rowRoom_cons _ _).le

lemma isPiece_before (hp : p.IsPiece) (hps : ∀ q ∈ ps, q.IsPiece) : ∀ q ∈ before p ps, q.IsPiece := by
  unfold before
  split
  · exact List.forall_mem_cons.2 ⟨.inl ⟨_, rfl⟩, (List.forall_mem_cons.1 hps).2⟩
  · exact List.forall_mem_cons.2 ⟨hp, hps⟩

/-- Pieces that are joined take no more room than they did. -/
lemma rowRoom_join_le (h : ∀ p ∈ ps.flatMap pieces, p.IsPiece) :
    (∀ p ∈ join ps [], p.IsPiece) ∧ rowRoom (join ps []) ≤ rowRoom (ps.flatMap pieces) := by
  rw [join]
  generalize ps.flatMap pieces = qs at h
  induction qs with
  | nil => exact ⟨h, Nat.le_refl _⟩
  | cons q qs ih =>
    obtain ⟨hq, hqs⟩ := List.forall_mem_cons.1 h
    obtain ⟨hpieces, hroom⟩ := ih hqs
    refine ⟨isPiece_before hq hpieces, ?_⟩
    have hbefore := rowRoom_before_le q (qs.foldr before [])
    rw [List.foldr_cons, rowRoom_cons]
    omega

/-- The plan that a row is. -/
def ofRow : List Plan → Plan
  | []  => empty
  | [p] => p
  | ps  => seq ps

lemma ofRow_of_two_le (h : 2 ≤ ps.length) : ofRow ps = seq ps := by
  match ps, h with
  | p :: q :: ps, _ => rfl

lemma reversedAll_eq_map (ps : List Plan) : reversedAll ps = ps.map reversed := by
  induction ps with
  | nil => rw [reversedAll, List.map_nil]
  | cons p ps ih => rw [reversedAll, ih, List.map_cons]

lemma reversed_ofRow (ps : List Plan) : (ofRow ps).reversed = ofRow (ps.map reversed).reverse := by
  match ps with
  | [] => rfl
  | [p] => rfl
  | p :: q :: ps =>
    have hlength : 2 ≤ ((p :: q :: ps).map reversed).reverse.length := by
      rw [List.length_reverse, List.length_map, List.length_cons, List.length_cons]
      omega
    rw [ofRow_of_two_le (Nat.le_add_left 2 _), ofRow_of_two_le hlength, reversed, reversedAll_eq_map]

lemma takes_ofRow (h : ∀ p ∈ ps, p.IsPiece) (d : Direction) :
    Takes ((ofRow ps).layOut? d) (frame + rowRoom ps) := by
  match ps with
  | [] =>
    intro l hl
    rw [ofRow, layOut?]
    exact takes_push?.mono (Nat.le_add_right _ _) l hl
  | [p] =>
    rw [ofRow, rowRoom_cons]
    exact ((List.forall_mem_singleton.1 h).takes d).mono (by omega)
  | p :: q :: ps =>
    intro l hl
    rw [ofRow_of_two_le (Nat.le_add_left 2 _), layOut?]
    exact (takes_row fun r hr => (h r hr).takes d).mono (Nat.le_add_left _ _) l hl

/-- Short enough rows of pieces fit. -/
theorem fits_ofRow (h : ∀ p ∈ ps, p.IsPiece) (hle : frame + rowRoom ps + searchRoom ≤ limit) :
    (ofRow ps).fits = true := by
  have hpieces : ∀ p ∈ (ps.map reversed).reverse, p.IsPiece := by
    intro p hp
    rw [List.mem_reverse, List.mem_map] at hp
    obtain ⟨q, hq, rfl⟩ := hp
    exact (h q hq).reversed.1
  have hroom : rowRoom (ps.map reversed).reverse = rowRoom ps := by
    rw [rowRoom, List.map_reverse, List.sum_reverse, List.map_map, rowRoom]
    refine congrArg List.sum (List.map_congr_left fun p hp => ?_)
    exact congrArg (entry + ·) (h p hp).reversed.2
  have hback := takes_ofRow hpieces .backwards
  rw [← reversed_ofRow, hroom] at hback
  exact fits_of_takes (takes_ofRow h .forwards) hback hle

end Plan

end Daybook.Pattern

/-! ### Wildcards -/

namespace Daybook.Wildcard

open Pattern Pattern.Plan Pattern.Layout

variable {source : String} {part : List Char} {p : Plan}

lemma length_parts (cs : List Char) :
    (parts cs).1.length + ((parts cs).2.map fun part => part.length + 1).sum = cs.length := by
  induction cs with
  | nil => rfl
  | cons c cs ih =>
    rw [parts, List.length_cons, ← ih]
    dsimp only
    by_cases hc : c = '%'
    · rw [if_pos hc, List.map_cons, List.sum_cons, List.length_nil]
      omega
    · rw [if_neg hc, List.length_cons]
      dsimp only
      omega

/-- The row of plans for a wildcard. -/
def planRow (source : String) : List Plan :=
  .anchor .textStart :: ((Plan.literal (parts source.toList).1 ::
    (parts source.toList).2.flatMap fun part => [Plan.run, Plan.literal part]) ++
      [.anchor .textEnd])

lemma plan_eq (source : String) : plan source = concat (planRow source) := rfl

lemma isPiece_of_mem_literal (h : p ∈ (Plan.literal part).pieces) : p.IsPiece := by
  cases part with
  | nil => cases h
  | cons c cs => exact .inl ⟨c :: cs, List.mem_singleton.1 h⟩

lemma isPiece_of_mem_run (h : p ∈ Plan.run.pieces) : p.IsPiece := by
  rw [run_eq] at h
  rw [List.mem_singleton.1 h, ← run_eq]
  exact .inr (.inr rfl)

lemma isPiece_of_mem_planRow (source : String) :
    ∀ p ∈ (planRow source).flatMap pieces, p.IsPiece := by
  intro p h
  obtain ⟨q, hq, hp⟩ := List.mem_flatMap.1 h
  simp only [planRow, List.mem_cons, List.mem_append, List.mem_flatMap, List.not_mem_nil,
    or_false] at hq
  rcases hq with rfl | (rfl | ⟨part, _, rfl | rfl⟩) | rfl
  · exact .inr (.inl ⟨_, List.mem_singleton.1 hp⟩)
  · exact isPiece_of_mem_literal hp
  · exact isPiece_of_mem_run hp
  · exact isPiece_of_mem_literal hp
  · exact .inr (.inl ⟨_, List.mem_singleton.1 hp⟩)

/-- The most room that a character of a wildcard takes: a run and a link to the part that follows. -/
def charRoom : Nat := 2 * entry + runRoom

lemma charRoom_eq : charRoom = 1028 := by decide +kernel

lemma rowRoom_literal_le (part : List Char) :
    rowRoom (Plan.literal part).pieces ≤ entry + charRoom * part.length := by
  cases part with
  | nil => exact Nat.zero_le _
  | cons c cs =>
    have hroom : rowRoom (Plan.literal (c :: cs)).pieces = entry + 4 * (c :: cs).length * 32 := rfl
    rw [hroom, charRoom_eq]
    omega

lemma rowRoom_others_le (others : List (List Char)) :
    rowRoom ((others.flatMap fun part => [Plan.run, Plan.literal part]).flatMap pieces) ≤
      charRoom * (others.map fun part => part.length + 1).sum := by
  induction others with
  | nil => exact Nat.zero_le _
  | cons part others ih =>
    have hpart := rowRoom_literal_le part
    have hrun : rowRoom Plan.run.pieces = entry + runRoom := by
      rw [run_eq]
      rfl
    have hchar : charRoom = 2 * entry + runRoom := rfl
    -- the percent sign pays for the run and for the link to the part
    rw [List.flatMap_cons, List.flatMap_append, rowRoom_append, List.flatMap_cons, rowRoom_append,
      List.flatMap_singleton, hrun, List.map_cons, List.sum_cons, Nat.mul_add, Nat.mul_add]
    omega

lemma rowRoom_planRow_le (source : String) : rowRoom ((planRow source).flatMap pieces) ≤
    2 * frame + 3 * entry + charRoom * source.length := by
  have hfirst := rowRoom_literal_le (parts source.toList).1
  have hothers := rowRoom_others_le (parts source.toList).2
  have hanchor (a : Anchor) : rowRoom (Plan.anchor a).pieces = entry + frame := rfl
  have hlength : charRoom * source.length = charRoom * (parts source.toList).1.length +
      charRoom * ((parts source.toList).2.map fun part => part.length + 1).sum := by
    rw [← Nat.mul_add, length_parts, String.length_toList]
  rw [planRow, List.flatMap_cons, rowRoom_append, List.flatMap_append, rowRoom_append,
    List.flatMap_cons, rowRoom_append, List.flatMap_singleton, hanchor, hanchor, hlength]
  omega

/-- Wildcards of up to ten thousand characters compile. -/
theorem exists_compile? (h : source.length ≤ 10000) : ∃ w, compile? source = some w := by
  have hplan : plan source = ofRow (join (planRow source) []) := rfl
  obtain ⟨hpieces, hroom⟩ := rowRoom_join_le (isPiece_of_mem_planRow source)
  have hchars : charRoom * source.length ≤ 1028 * 10000 := by
    rw [charRoom_eq]
    exact Nat.mul_le_mul_left 1028 h
  have hlimit : frame + (2 * frame + 3 * entry + 1028 * 10000) + searchRoom ≤ limit := by decide
  have hrow := hroom.trans ((rowRoom_planRow_le source).trans (Nat.add_le_add_left hchars _))
  have hfits : (plan source).fits = true := by
    rw [hplan]
    apply fits_ofRow hpieces
    exact (Nat.add_le_add_right (Nat.add_le_add_left hrow frame) searchRoom).trans hlimit
  exact ⟨⟨source, hfits⟩, dif_pos hfits⟩

end Daybook.Wildcard
