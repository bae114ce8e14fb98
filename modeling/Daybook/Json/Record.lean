import Daybook.Json.Basic
import Daybook.Binary64.Shortest
import Daybook.Decimal.Text

/-!
# Records in documents

A record is an object with one member for each field, or an array of its fields in order. A field
may be left out if it has a default. A field that is given twice makes the record unreadable; members
that are no fields are passed over.
-/

namespace Daybook

/-- Types that can be read from a document. -/
class FromJson (α : Type) where
  fromJson? : Json → Option α

export FromJson (fromJson?)

namespace Json

/-! ### Scalars -/

def natBelow? (bound : Nat) : Json → Option Nat
  | .int i => if 0 ≤ i ∧ i.toNat < bound then some i.toNat else none
  | _      => none

/-- A decimal: a string in plain or scientific notation, a whole number, or a double, which stands
for its shortest decimal. -/
def decimal? : Json → Option Decimal
  | .str s    => Decimal.parse? s
  | .int i    => Decimal.of? i 0
  | .double x => Decimal.parsePlain? x.render
  | _         => none

/-- A name without contents: the string itself, or an object whose only member has that name and is
null. -/
def tag? : Json → Option String
  | .str name            => some name
  | .obj [(name, .null)] => some name
  | _                    => none

/-- An object with a single member, which is null where it was an empty object. -/
def emptyToNull : Json → Json
  | .obj [(name, .obj [])] => .obj [(name, .null)]
  | j                      => j

def list? (read? : Json → Option α) : Json → Option (List α)
  | .arr items => items.mapM read?
  | _          => none

end Json

instance : FromJson Bool where
  fromJson?
    | .bool b => some b
    | _       => none

instance : FromJson String where
  fromJson?
    | .str s => some s
    | _      => none

instance : FromJson UInt8 where
  fromJson? j := (j.natBelow? UInt8.size).map UInt8.ofNat

instance : FromJson UInt32 where
  fromJson? j := (j.natBelow? UInt32.size).map UInt32.ofNat

instance : ToJson UInt8 := ⟨fun n => .nat n.toNat⟩
instance : ToJson UInt32 := ⟨fun n => .nat n.toNat⟩

instance : FromJson Decimal := ⟨Json.decimal?⟩
instance : ToJson Decimal := ⟨fun a => .str a.render⟩

instance [FromJson α] : FromJson (List α) := ⟨Json.list? fromJson?⟩

instance [FromJson α] : FromJson (Option α) where
  fromJson?
    | .null => some none
    | j     => (fromJson? j).map some

/-! ### Records -/

/-- The fields of a record that a document gives. -/
structure Record where
  fields : List (String × Json)

namespace Record

/-- The record in a document, for the given field names in order. -/
def of? (names : List String) : Json → Option Record
  | .obj members =>
    let known := members.filter fun (name, _) => names.contains name
    if (known.map (·.1)).Nodup then some ⟨known⟩ else none
  | .arr items => if items.length ≤ names.length then some ⟨names.zip items⟩ else none
  | _ => none

/-- What the document gives for a field. -/
def get? (r : Record) (name : String) : Option Json :=
  (r.fields.find? (·.1 == name)).map (·.2)

def required [FromJson α] (r : Record) (name : String) : Option α :=
  (r.get? name).bind fromJson?

def withDefault [FromJson α] (r : Record) (name : String) (default : α) : Option α :=
  match r.get? name with
  | some j => fromJson? j
  | none   => some default

/-- A field that may be left out or null. A name without contents may also be given by an empty
object. -/
def named? [FromJson α] (r : Record) (name : String) : Option (Option α) :=
  match r.get? name with
  | some j => fromJson? j.emptyToNull
  | none   => some none

end Record

end Daybook
