import Daybook.Fault
import Daybook.Template.Table

/-!
# Resolution

A `ResolvedQuery` is a weighted union: each of its leaves is a filter tree with a coefficient and a
range. Resolving a template flattens the references in its body into leaves, in order. Coefficients are
multiplied along the way; a template that inherits its range gets the one it was referred to with.

A resolution keeps a stack of the templates that it is in (`Frame`) and goes on pass by pass
(`TemplateTable.pass`). It refuses to enter a template that it is already in, so it ends also on tables that
were never checked: `TemplateTable.passesLeft` bounds the passes to come.
-/

namespace Daybook

/-! ### Resolved queries -/

/-- A filter tree with what it counts and the range it is limited to. The path names the templates that
lead to it. -/
structure ResolvedLeaf where
  tree : FilterTree
  coefficient : Decimal
  range? : Option DateRange
  path : List String

namespace ResolvedLeaf

/-- Whether an entry of a voucher belongs to the leaf. -/
def accepts (leaf : ResolvedLeaf) (e : Entry) (v : Voucher) : Bool :=
  inRange leaf.range? v.date? && leaf.tree.accepts e v

/-- Whether some entry of a voucher could belong to the leaf. -/
def mayAccept (leaf : ResolvedLeaf) (v : Voucher) : Bool :=
  inRange leaf.range? v.date? && leaf.tree.mayAccept v

/-- A range that holds the dates of all vouchers with an entry in the leaf. -/
def dateHint (leaf : ResolvedLeaf) : DateRange :=
  match leaf.range? with
  | some range => leaf.tree.dateHint.intersect range
  | none       => leaf.tree.dateHint

/-- The leaf as a tree, without its coefficient. -/
def toTree (leaf : ResolvedLeaf) : FilterTree :=
  match leaf.range? with
  | some range => .intersect [leaf.tree, .during range]
  | none       => leaf.tree

end ResolvedLeaf

/-- A weighted union of filter trees. -/
structure ResolvedQuery where
  leaves : List ResolvedLeaf

namespace ResolvedQuery

/-- A single tree that counts once. -/
def ofTree (tree : FilterTree) : ResolvedQuery := ⟨[⟨tree, Decimal.one, none, []⟩]⟩

/-- The query with all coefficients multiplied by a number. -/
def scaled (A : Arithmetic) (q : ResolvedQuery) (k : Decimal) : Except Overflow ResolvedQuery := do
  let leaves ← q.leaves.mapM fun leaf =>
    return { leaf with coefficient := ← A.mul leaf.coefficient k }
  return ⟨leaves⟩

/-- The union of the leaves, coefficients dropped. -/
def filterTree (q : ResolvedQuery) : Except QueryError FilterTree :=
  match q.leaves with
  | [leaf] => .ok leaf.toTree
  | leaves => Combinator.union.apply (leaves.map (·.toTree))

/-- A range that holds the dates of all vouchers with an entry in the query. -/
def dateHint (q : ResolvedQuery) : DateRange := .hullAll (q.leaves.map (·.dateHint))

end ResolvedQuery

/-! ### Resolution -/

/-- A template that a resolution is in: the items of its body that are still to come, and the coefficient and
the range that they are under. -/
structure Frame where
  name : String
  items : List TemplateItem
  scale : Decimal
  range? : Option DateRange

/-- The template before its first item, for a caller with a range. -/
def Template.frame (template : Template) (scale : Decimal) (inherited? : Option DateRange) : Frame :=
  ⟨template.name, template.items, scale, template.effectiveRange inherited?⟩

/-- How far a resolution has come: the templates that it is in, the innermost one first, and the leaves that it
has found. -/
structure Resolution where
  frames : List Frame
  leaves : Array ResolvedLeaf

namespace Resolution

/-- The names of the templates that a resolution is in, the outermost one first. -/
def path (frames : List Frame) : List String := (frames.map (·.name)).reverse

@[simp] theorem path_nil : path [] = [] := rfl

@[simp] theorem path_cons (frame : Frame) (outer : List Frame) :
    path (frame :: outer) = path outer ++ [frame.name] := by
  simp [path]

end Resolution

namespace TemplateTable

/-- One pass of a resolution: take up the next item of the innermost template, or leave the template if it has
no more items. -/
def pass (A : Arithmetic) (t : TemplateTable) (frame : Frame) (outer : List Frame)
    (leaves : Array ResolvedLeaf) : Except (Fault QueryError) Resolution :=
  let path := Resolution.path (frame :: outer)
  match frame.items with
  | [] => .ok ⟨outer, leaves⟩
  | .query tree :: items =>
    .ok ⟨{ frame with items } :: outer, leaves.push ⟨tree, frame.scale, frame.range?, path⟩⟩
  | .reference name coefficient :: items =>
    if name ∈ path then .error (.error (.cyclicReference (cycle path name)))
    else match t.get? name with
      | none          => .error (.error (.unknownTemplate name))
      | some template => do
        let scale ← A.mul frame.scale coefficient
        let scale ← A.mul scale template.coefficient
        return ⟨template.frame scale frame.range? :: { frame with items } :: outer, leaves⟩

/-- A reference to a template that the resolution is not in yet leads into its body. -/
theorem pass_reference {A : Arithmetic} {t : TemplateTable} {frame : Frame} {outer : List Frame}
    {leaves : Array ResolvedLeaf} {name : String} {coefficient : Decimal} {items : List TemplateItem}
    {template : Template} (next : frame.items = .reference name coefficient :: items)
    (fresh : name ∉ Resolution.path (frame :: outer)) (found : t.get? name = some template) :
    t.pass A frame outer leaves =
      (liftOverflow (A.mul frame.scale coefficient >>= (A.mul · template.coefficient))).map fun scale =>
        ⟨template.frame scale frame.range? :: { frame with items } :: outer, leaves⟩ := by
  simp only [pass, next, if_neg fresh, found]
  cases A.mul frame.scale coefficient with
  | error o => rfl
  | ok scale => cases A.mul scale template.coefficient <;> rfl

/-! ### The number of passes -/

/-- The largest number of items in a body. -/
def width (t : TemplateTable) : Nat := t.templates.foldr (fun template n => max template.items.length n) 0

/-- The most passes that an item can take, if a number of templates can still be entered. -/
def passesPerItem (t : TemplateTable) : Nat → Nat
  | 0     => 1
  | n + 1 => t.width * t.passesPerItem n + 2

/-- The most passes that a resolution can take from here on. -/
def passesLeft (t : TemplateTable) : List Frame → Nat
  | []             => 0
  | frame :: outer =>
    frame.items.length * t.passesPerItem (t.unvisited (Resolution.path (frame :: outer))).length + 1
      + t.passesLeft outer

theorem length_le_width {t : TemplateTable} {template : Template} (h : template ∈ t.templates) :
    template.items.length ≤ t.width := by
  obtain ⟨templates⟩ := t
  simp only [width] at h ⊢
  induction templates with
  | nil => cases h
  | cons first rest ih =>
    rw [List.foldr_cons]
    rcases List.mem_cons.1 h with rfl | h
    · exact Nat.le_max_left ..
    · exact Nat.le_trans (ih h) (Nat.le_max_right ..)

theorem passesPerItem_pos (t : TemplateTable) (n : Nat) : 0 < t.passesPerItem n := by
  cases n with
  | zero => exact Nat.one_pos
  | succ n => exact Nat.succ_pos _

theorem passesPerItem_le_succ (t : TemplateTable) (n : Nat) :
    t.passesPerItem n ≤ t.passesPerItem (n + 1) := by
  induction n with
  | zero => exact passesPerItem_pos t 1
  | succ n ih => exact Nat.add_le_add_right (Nat.mul_le_mul_left t.width ih) 2

theorem passesPerItem_mono (t : TemplateTable) {m n : Nat} (h : m ≤ n) :
    t.passesPerItem m ≤ t.passesPerItem n := by
  induction h with
  | refl => exact Nat.le_refl _
  | step _ ih => exact Nat.le_trans ih (passesPerItem_le_succ ..)

/-- An item has room for the passes of the whole body of a template that it refers to. -/
theorem body_lt_passesPerItem {t : TemplateTable} {template : Template} {m n : Nat}
    (h : template ∈ t.templates) (hlt : m < n) :
    template.items.length * t.passesPerItem m + 1 < t.passesPerItem n := by
  have body := Nat.mul_le_mul_right (t.passesPerItem m) (length_le_width h)
  have next : t.width * t.passesPerItem m + 2 ≤ t.passesPerItem n := passesPerItem_mono t hlt
  omega

/-- Every pass leaves fewer passes to come. -/
theorem passesLeft_lt {A : Arithmetic} {t : TemplateTable} {frame : Frame} {outer : List Frame}
    {leaves : Array ResolvedLeaf} {r : Resolution} (h : t.pass A frame outer leaves = .ok r) :
    t.passesLeft r.frames < t.passesLeft (frame :: outer) := by
  obtain ⟨name, items, scale, range?⟩ := frame
  match items with
  | [] =>
    cases h
    simp only [passesLeft]
    omega
  | .query tree :: items =>
    cases h
    have := passesPerItem_pos t (t.unvisited (Resolution.path outer ++ [name])).length
    simp only [passesLeft, Resolution.path_cons, List.length_cons, Nat.succ_mul]
    omega
  | .reference target coefficient :: items =>
    by_cases fresh : target ∈
        Resolution.path (⟨name, .reference target coefficient :: items, scale, range?⟩ :: outer)
    · simp only [pass, if_pos fresh] at h
      cases h
    · cases found : t.get? target with
      | none =>
        simp only [pass, if_neg fresh, found] at h
        cases h
      | some template =>
        rw [pass_reference rfl fresh found] at h
        cases hscale : A.mul scale coefficient >>= (A.mul · template.coefficient) with
        | error o =>
          simp only [hscale] at h
          cases h
        | ok inner =>
          simp only [hscale] at h
          cases h
          have := body_lt_passesPerItem (mem_of_get? found) (unvisited_lt found fresh)
          simp only [passesLeft, Template.frame, Resolution.path_cons, name_of_get? found,
            List.length_cons, Nat.succ_mul] at this ⊢
          omega

/-! ### Resolved templates -/

/-- The leaves at the end of a resolution. -/
def run (A : Arithmetic) (t : TemplateTable) (frames : List Frame) (leaves : Array ResolvedLeaf) :
    Except (Fault QueryError) (List ResolvedLeaf) :=
  match frames with
  | []             => .ok leaves.toList
  | frame :: outer =>
    match h : t.pass A frame outer leaves with
    | .error e => .error e
    | .ok r    =>
      have := passesLeft_lt h
      t.run A r.frames r.leaves
termination_by t.passesLeft frames

/-- The query that a name stands for, scaled by a coefficient, for a caller with a range. -/
def resolve (A : Arithmetic) (t : TemplateTable) (name : String) (coefficient : Decimal)
    (inherited? : Option DateRange) : Except (Fault QueryError) ResolvedQuery :=
  match t.get? name with
  | none          => .error (.error (.unknownTemplate name))
  | some template => do
    let scale ← A.mul coefficient template.coefficient
    return ⟨← t.run A [template.frame scale inherited?] #[]⟩

end TemplateTable

end Daybook
