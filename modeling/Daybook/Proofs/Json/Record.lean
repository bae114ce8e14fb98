import Daybook.Json.Record
import Daybook.Proofs.Decimal.Text

/-!
# Reading back documents

A value `ReadsAs` another one if that is what is read from its document; mostly this is the value itself.
Lists are read member by member and records field by field: a record that is written with all of its field
names finds each field under its name (`Record.get?_ofMembers`), and a field that was left out is missing again.
-/

namespace Daybook

variable {α β : Type} [ToJson α] [FromJson α] {a b : α}

/-! ### Scalars -/

/-- From the document of a value, which is not null, another one is read. -/
structure ReadsAs (a b : α) : Prop where
  read : fromJson? (toJson a) = some b
  ne_null : toJson a ≠ .null

lemma readsAs_string (s : String) : ReadsAs s s := ⟨rfl, Json.noConfusion⟩

lemma readsAs_bool (b : Bool) : ReadsAs b b := ⟨rfl, Json.noConfusion⟩

lemma readsAs_decimal (a : Decimal) : ReadsAs a a.unsigned := ⟨a.parse?_render, Json.noConfusion⟩

lemma Json.natBelow?_nat {n bound : ℕ} (h : n < bound) : natBelow? bound (nat n) = some n := by
  simp [natBelow?, nat, h]

lemma readsAs_uint8 (n : UInt8) : ReadsAs n n := by
  refine ⟨?_, Json.noConfusion⟩
  show (Json.natBelow? UInt8.size (.nat n.toNat)).map UInt8.ofNat = _
  rw [Json.natBelow?_nat n.toNat_lt, Option.map_some, UInt8.ofNat_toNat]

lemma readsAs_uint32 (n : UInt32) : ReadsAs n n := by
  refine ⟨?_, Json.noConfusion⟩
  show (Json.natBelow? UInt32.size (.nat n.toNat)).map UInt32.ofNat = _
  rw [Json.natBelow?_nat n.toNat_lt, Option.map_some, UInt32.ofNat_toNat]

/-! ### Options and lists -/

section

variable {γ δ : Type} {R : γ → δ → Prop} {f : γ → δ}

/-- A value that may be missing is related to its image, if every value is. -/
lemma rel_map_self (h : ∀ c, R c (f c)) (c? : Option γ) : Option.Rel R c? (c?.map f) := by
  cases c? with
  | none => exact .none
  | some c => exact .some (h c)

/-- A list is related one by one to its image, if every member is. -/
lemma forall₂_map_self (h : ∀ c, R c (f c)) (cs : List γ) : List.Forall₂ R cs (cs.map f) :=
  List.forall₂_map_right_iff.2 (List.forall₂_same.2 fun c _ => h c)

end

/-- A value that may be missing is written as null then. -/
lemma fromJson?_option {a? b? : Option α} (h : Option.Rel ReadsAs a? b?) :
    fromJson? (toJson a?) = some b? := by
  cases h with
  | none => rfl
  | @some a b hab =>
    have value : (fromJson? (toJson a) : Option (Option α)) = (fromJson? (toJson a)).map some := by
      cases hj : toJson a with
      | null => exact absurd hj hab.ne_null
      | bool | int | double | str | arr | obj => rfl
    show (fromJson? (toJson a) : Option (Option α)) = _
    rw [value, hab.read, Option.map_some]

/-- A value that is read back as it is may be missing. -/
lemma rel_readsAs (h : ∀ a : α, ReadsAs a a) (a? : Option α) : Option.Rel ReadsAs a? a? := by
  have same := rel_map_self (f := id) h a?
  rwa [Option.map_id] at same

omit [ToJson α] in
/-- What is read from an array is read member by member. -/
lemma fromJson?_arr_eq_some {items : List Json} {as : List α} :
    fromJson? (.arr items) = some as ↔ List.Forall₂ (fun j a => fromJson? j = some a) items as := by
  show items.mapM fromJson? = some as ↔ _
  induction items generalizing as with
  | nil =>
    rw [List.mapM_nil, List.forall₂_nil_left_iff]
    exact Option.some_inj.trans eq_comm
  | cons j items ih =>
    simp only [List.mapM_cons, Option.bind_eq_bind, Option.bind_eq_some_iff, Option.pure_def,
      Option.some.injEq, List.forall₂_cons_left_iff, ih]
    constructor
    · rintro ⟨a, ha, as, has, rfl⟩
      exact ⟨a, as, ha, has, rfl⟩
    · rintro ⟨a, as, ha, has, rfl⟩
      exact ⟨a, ha, as, has, rfl⟩

omit [ToJson α] in
/-- Nothing but an array is read as a list. -/
lemma exists_arr_of_fromJson? {j : Json} {as : List α} (h : fromJson? j = some as) :
    ∃ items, j = .arr items ∧ List.Forall₂ (fun j a => fromJson? j = some a) items as := by
  cases j with
  | arr items => exact ⟨items, rfl, fromJson?_arr_eq_some.1 h⟩
  | null | bool | int | double | str | obj => cases h

lemma readsAs_list {as bs : List α} (h : List.Forall₂ ReadsAs as bs) : ReadsAs as bs := by
  refine ⟨fromJson?_arr_eq_some.2 ?_, Json.noConfusion⟩
  rw [List.forall₂_map_left_iff]
  exact h.imp fun _ _ hab => hab.read

lemma readsAs_map {f : α → α} (h : ∀ a, ReadsAs a (f a)) (as : List α) : ReadsAs as (as.map f) :=
  readsAs_list (forall₂_map_self h as)

/-! ### Records -/

namespace Record

variable {members : List (String × Option Json)} {names : List String} {name : String} {r : Record}

/-- The record of the members that are there. -/
def ofMembers (members : List (String × Option Json)) : Record :=
  ⟨members.filterMap fun (name, value?) => value?.map (name, ·)⟩

lemma names_ofMembers_sublist (members : List (String × Option Json)) :
    ((ofMembers members).fields.map (·.1)).Sublist (members.map (·.1)) := by
  induction members with
  | nil => exact .slnil
  | cons member members ih =>
    obtain ⟨name, value?⟩ := member
    cases value? with
    | none => exact ih.cons _
    | some value => exact ih.cons_cons _

/-- An object with all field names, once each, is read as the record of its members. -/
lemma of?_objOf (hnames : members.map (·.1) = names) (hnodup : names.Nodup) :
    of? names (.objOf members) = some (ofMembers members) := by
  have sublist := names_ofMembers_sublist members
  have known : (ofMembers members).fields.filter (fun field => names.contains field.1)
      = (ofMembers members).fields := by
    rw [List.filter_eq_self]
    intro field hfield
    rw [List.contains_iff_mem, ← hnames]
    exact sublist.subset (List.mem_map_of_mem hfield)
  show (if (((ofMembers members).fields.filter fun field => names.contains field.1).map (·.1)).Nodup
    then some (Record.mk ((ofMembers members).fields.filter fun field => names.contains field.1))
    else none) = _
  rw [known, if_pos ((hnames ▸ hnodup).sublist sublist)]

/-- A field is found under its name, if it is there. -/
lemma get?_ofMembers {value? : Option Json} (hnodup : (members.map (·.1)).Nodup)
    (h : (name, value?) ∈ members) : (ofMembers members).get? name = value? := by
  induction members with
  | nil => cases h
  | cons member members ih =>
    obtain ⟨first, first?⟩ := member
    obtain ⟨hfirst, hnodup⟩ := List.nodup_cons.1 hnodup
    rcases List.mem_cons.1 h with heq | h
    · obtain ⟨rfl, rfl⟩ := Prod.mk.inj heq
      cases value? with
      | some value => simp [ofMembers, get?]
      | none =>
        -- left out: no later member has the same name, so none is taken for it
        rw [get?, Option.map_eq_none_iff, List.find?_eq_none]
        intro field hfield heq
        rw [beq_iff_eq] at heq
        have := (names_ofMembers_sublist members).subset (List.mem_map_of_mem hfield)
        exact hfirst (heq ▸ this)
    · have hne : first ≠ name := by
        rintro rfl
        exact hfirst (List.mem_map.2 ⟨_, h, rfl⟩)
      rw [← ih hnodup h]
      cases first? with
      | none => rfl
      | some value => simp [ofMembers, get?, hne]

/-- From an object with all field names, once each, a record is read in which each field is found. -/
lemma exists_of_objOf (names : List String) (members : List (String × Option Json))
    (hnames : members.map (·.1) = names) (hnodup : names.Nodup) :
    ∃ r, of? names (.objOf members) = some r ∧
      ∀ name value?, (name, value?) ∈ members → r.get? name = value? :=
  ⟨ofMembers members, of?_objOf hnames hnodup, fun _ _ => get?_ofMembers (hnames ▸ hnodup)⟩

lemma required_of_readsAs (h : r.get? name = some (toJson a)) (hab : ReadsAs a b) :
    r.required name = some b := by
  rw [required, h, Option.bind_some, hab.read]

lemma withDefault_of_read (default : α) (h : r.get? name = some (toJson a))
    (hread : fromJson? (toJson a) = some b) : r.withDefault name default = some b := by
  rw [withDefault, h]
  exact hread

/-- A field that is left out if it has no value has none again. -/
lemma withDefault_none {a? b? : Option α} (h : r.get? name = a?.map toJson)
    (hab : Option.Rel ReadsAs a? b?) : r.withDefault name none = some b? := by
  cases hab with
  | none =>
    rw [withDefault, h]
    rfl
  | @some a b hab =>
    rw [withDefault, h]
    exact fromJson?_option (.some hab)

/-- So it is for a name without contents, which is not written as an empty object. -/
lemma named?_of_rel {a? b? : Option α} (h : r.get? name = a?.map toJson)
    (hab : Option.Rel ReadsAs a? b?) (filled : ∀ a : α, (toJson a).emptyToNull = toJson a) :
    r.named? name = some b? := by
  cases hab with
  | none =>
    rw [named?, h]
    rfl
  | @some a b hab =>
    rw [named?, h]
    show fromJson? (toJson a).emptyToNull = _
    rw [filled]
    exact fromJson?_option (.some hab)

end Record

end Daybook
