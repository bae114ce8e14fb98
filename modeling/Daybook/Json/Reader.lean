import Daybook.Json.Token

/-!
# Reading documents

`Json.parse?` reads a text that consists of one document. A document may be nested 127 levels deep.
Each rule of the grammar consumes tokens, so reading ends.
-/

namespace Daybook

namespace Json

/-- The tokens behind a part that was read: fewer than before. -/
abbrev Rest (tokens : List Token) := { rest : List Token // rest.length < tokens.length }

/-- How deep arrays and objects may be nested. -/
def maxDepth : Nat := 127

mutual

/-- Read one document; `room` levels of nesting are left. -/
def readValue (room : Nat) (tokens : List Token) : Option (Json × Rest tokens) :=
  match tokens with
  | .null :: rest     => some (.null, ⟨rest, by simp⟩)
  | .bool b :: rest   => some (.bool b, ⟨rest, by simp⟩)
  | .int i :: rest    => some (.int i, ⟨rest, by simp⟩)
  | .double x :: rest => some (.double x, ⟨rest, by simp⟩)
  | .str s :: rest    => some (.str s, ⟨rest, by simp⟩)
  | .openArray :: .closeArray :: rest =>
    if room = 0 then none else some (.arr [], ⟨rest, Nat.lt_of_succ_lt (Nat.lt_succ_self _)⟩)
  | .openArray :: rest =>
    if room = 0 then none
    else do
      let (items, r) ← readItems (room - 1) rest
      some (.arr items, ⟨r.val, Nat.lt_succ_of_lt r.property⟩)
  | .openObject :: .closeObject :: rest =>
    if room = 0 then none else some (.obj [], ⟨rest, Nat.lt_of_succ_lt (Nat.lt_succ_self _)⟩)
  | .openObject :: rest =>
    if room = 0 then none
    else do
      let (members, r) ← readMembers (room - 1) rest
      some (.obj members, ⟨r.val, Nat.lt_succ_of_lt r.property⟩)
  | _ => none
termination_by (tokens.length, 0)

/-- Read the items of an array up to its closing bracket. -/
def readItems (room : Nat) (tokens : List Token) : Option (List Json × Rest tokens) := do
  let (item, r) ← readValue room tokens
  match hr : r.val with
  | .closeArray :: rest =>
    some ([item], ⟨rest, by have := r.property; simp [hr] at this; omega⟩)
  | .comma :: rest => do
    have : rest.length < tokens.length := by have := r.property; simp [hr] at this; omega
    let (items, r') ← readItems room rest
    some (item :: items, ⟨r'.val, Nat.lt_trans r'.property this⟩)
  | _ => none
termination_by (tokens.length, 1)

/-- Read the members of an object up to its closing brace. -/
def readMembers (room : Nat) (tokens : List Token) :
    Option (List (String × Json) × Rest tokens) :=
  match tokens with
  | .str name :: .colon :: rest => do
    let (value, r) ← readValue room rest
    match hr : r.val with
    | .closeObject :: rest' =>
      some ([(name, value)], ⟨rest', by have := r.property; simp [hr] at this; simp; omega⟩)
    | .comma :: rest' => do
      have : rest'.length < rest.length := by have := r.property; simp [hr] at this; omega
      let (members, r') ← readMembers room rest'
      some ((name, value) :: members, ⟨r'.val, by have := r'.property; simp; omega⟩)
    | _ => none
  | _ => none
termination_by (tokens.length, 1)

end

/-- Read a text that consists of one document. -/
def parse? (text : String) : Option Json := do
  let tokens ← tokens? text.toList
  let (document, rest) ← readValue maxDepth tokens
  if rest.val.isEmpty then some document else none

end Json

end Daybook
