import Daybook.Binary64.Basic

/-!
# Documents

Vouchers, options, queries and reports are exchanged as JSON. A document keeps the members of an
object in order and keeps repeated names, because a reader may have to refuse them. A number is
whole if it is written without fraction and exponent and fits into 64 bits; every other number is a
double.
-/

namespace Daybook

/-- A JSON document. -/
inductive Json where
  | null
  | bool (b : Bool)
  | int (i : Int)
  | double (x : Binary64)
  | str (s : String)
  | arr (items : List Json)
  | obj (members : List (String × Json))

namespace Json

instance : Inhabited Json := ⟨.null⟩

def isArray : Json → Bool
  | .arr _ => true
  | _      => false

/-- The first member of an object with the given name. -/
def get? (name : String) : Json → Option Json
  | .obj members => (members.find? (·.1 == name)).map (·.2)
  | _            => none

/-- The first member with the given name; null if there is none. -/
def getD (document : Json) (name : String) : Json := (document.get? name).getD .null

def nat (n : Nat) : Json := .int n

/-- An object without the members that are absent. -/
def objOf (members : List (String × Option Json)) : Json :=
  .obj (members.filterMap fun (name, value?) => value?.map (name, ·))

def ofOption (encode : α → Json) : Option α → Json
  | some a => encode a
  | none   => .null

end Json

/-- Types with a written form as a document. -/
class ToJson (α : Type) where
  toJson : α → Json

export ToJson (toJson)

instance : ToJson Bool := ⟨.bool⟩
instance : ToJson String := ⟨.str⟩
instance : ToJson Json := ⟨id⟩
instance [ToJson α] : ToJson (List α) := ⟨fun xs => .arr (xs.map toJson)⟩
instance [ToJson α] : ToJson (Option α) := ⟨Json.ofOption toJson⟩

end Daybook
