import Daybook.Ledger.Basic
import Daybook.Proofs.Calendar.DateRange
import Daybook.Proofs.Outcome
import Daybook.Proofs.Voucher.Balance

/-!
# What a ledger holds

A ledger made of vouchers that break no rule holds the latest ones: all of them, except those that a later
voucher with the same id replaces (`Ledger.exists_ofVouchers`). Vouchers without id are never replaced, if the ids
that are handed out to them are distinct and fresh. Only as many ids count as there are vouchers, since no
more than these can be handed out.
-/

namespace Daybook

variable {u v w : Voucher} {vs ws : List Voucher} {l : Ledger}

/-! ### Latest vouchers -/

namespace Voucher

/-- The voucher has the id of another one, and takes its place. -/
def Replaces (v u : Voucher) : Prop := u.id? ≠ none ∧ v.id? = u.id?

instance (v u : Voucher) : Decidable (v.Replaces u) := inferInstanceAs (Decidable (_ ∧ _))

/-- The vouchers that no later one replaces. -/
def latest : List Voucher → List Voucher
  | []      => []
  | v :: vs => if ∃ w ∈ vs, w.Replaces v then latest vs else v :: latest vs

/-- A further voucher replaces those with its id. -/
lemma latest_concat (vs : List Voucher) (v : Voucher) :
    latest (vs ++ [v]) = (latest vs).filter (fun u => ¬ v.Replaces u) ++ [v] := by
  induction vs with
  | nil => simp [latest]
  | cons u vs ih =>
    rw [List.cons_append, latest, latest, ih]
    by_cases hvs : ∃ w ∈ vs, w.Replaces u
    · rw [if_pos hvs, if_pos (hvs.imp fun w hw => ⟨List.mem_append_left _ hw.1, hw.2⟩)]
    · rw [if_neg hvs]
      by_cases hv : v.Replaces u
      · rw [if_pos ⟨v, by simp, hv⟩, List.filter_cons_of_neg (by simpa using hv)]
      · rw [if_neg, List.filter_cons_of_pos (by simpa using hv), List.cons_append]
        rintro ⟨w, hw, hreplaces⟩
        rcases List.mem_append.1 hw with hw | hw
        · exact hvs ⟨w, hw, hreplaces⟩
        · exact hv (List.mem_singleton.1 hw ▸ hreplaces)

/-- If no id is given twice, nothing is replaced. -/
lemma latest_of_nodup (h : (vs.filterMap (·.id?)).Nodup) : latest vs = vs := by
  induction vs with
  | nil => rfl
  | cons v vs ih =>
    have rest : (vs.filterMap (·.id?)).Nodup := h.sublist ((List.sublist_cons_self v vs).filterMap _)
    rw [latest, if_neg, ih rest]
    rintro ⟨w, hw, hne, hid⟩
    obtain ⟨id, hv⟩ := Option.ne_none_iff_exists'.1 hne
    rw [List.filterMap_cons, hv, List.nodup_cons] at h
    exact h.1 (List.mem_filterMap.2 ⟨w, hw, hid.trans hv⟩)

end Voucher

/-! ### New ids -/

namespace IdSource

/-- None of the first ids is the given one. -/
def Avoids (newIds : IdSource) (count : ℕ) (id : String) : Prop := ∀ n < count, newIds n ≠ id

/-- No id comes twice among the first ones. -/
def Distinct (newIds : IdSource) (count : ℕ) : Prop :=
  ∀ m < count, ∀ n < count, newIds m = newIds n → m = n

/-- No voucher comes with an id that may be handed out to another one. -/
def FreshFor (newIds : IdSource) (vs : List Voucher) : Prop :=
  ∀ v ∈ vs, ∀ id ∈ v.id?, newIds.Avoids vs.length id

instance (newIds : IdSource) (vs : List Voucher) : Decidable (newIds.FreshFor vs) :=
  inferInstanceAs (Decidable (∀ v ∈ vs, ∀ id ∈ v.id?, ∀ n < vs.length, newIds n ≠ id))

lemma distinct_numbered (beginning : String) (count : ℕ) : (numbered beginning).Distinct count := by
  intro m _ n _ h
  rw [numbered, numbered, String.append_right_inj] at h
  exact Nat.repr_injective h

end IdSource

namespace Ledger

open Voucher

variable {newIds : IdSource} {count : ℕ}

/-! ### Vouchers with ids -/

/-- An entry of a ledger that has handed out some new ids is a voucher under its own id, or under one of these
if it has none. -/
structure Keeps (newIds : IdSource) (count issued : ℕ) (v : Voucher) (entry : String × Voucher) :
    Prop where
  filled : entry.2 = { v with id? := some entry.1 }
  under : v.id? = some entry.1 ∧ newIds.Avoids count entry.1 ∨
    v.id? = none ∧ ∃ n < issued, entry.1 = newIds n

/-- The entries of the ledger are the latest ones of some vouchers. -/
structure Holds (newIds : IdSource) (count : ℕ) (l : Ledger) (vs : List Voucher) : Prop where
  kept : List.Forall₂ (Keeps newIds count l.issued) (latest vs) l.vouchers
  distinct : (l.vouchers.map (·.1)).Nodup
  issued_le : l.issued ≤ vs.length

lemma holds_empty : empty.Holds newIds count [] := ⟨.nil, .nil, Nat.le_refl 0⟩

variable {issued : ℕ} {entry : String × Voucher}

lemma Keeps.mono {issued' : ℕ} (h : Keeps newIds count issued v entry) (hle : issued ≤ issued') :
    Keeps newIds count issued' v entry :=
  ⟨h.filled, h.under.imp_right fun ⟨hnone, n, hn, hid⟩ => ⟨hnone, n, hn.trans_le hle, hid⟩⟩

/-- An id that is not handed out belongs to the entry of the voucher that has it. -/
lemma Keeps.id_iff {id : String} (h : Keeps newIds count issued v entry) (hissued : issued ≤ count)
    (hid : newIds.Avoids count id) : v.id? = some id ↔ entry.1 = id := by
  rcases h.under with ⟨hv, _⟩ | ⟨hv, n, hn, hentry⟩
  · rw [hv, Option.some.injEq]
  · constructor
    · intro h
      cases hv.symm.trans h
    · intro h
      exact absurd (hentry.symm.trans h) (hid n (hn.trans_le hissued))

/-- The next id that is handed out does not belong to any entry yet. -/
lemma Keeps.ne_newId (h : Keeps newIds count issued v entry) (distinct : newIds.Distinct count)
    (hissued : issued < count) : entry.1 ≠ newIds issued := by
  rcases h.under with ⟨_, avoided⟩ | ⟨_, n, hn, hid⟩
  · exact (avoided issued hissued).symm
  · rw [hid]
    exact fun h => hn.ne (distinct n (hn.trans hissued) issued hissued h)

/-! ### Taking in vouchers -/

lemma nodup_insert (h : (l.vouchers.map (·.1)).Nodup) (id : String) (v : Voucher) :
    ((l.insert id v).vouchers.map (·.1)).Nodup := by
  have others : id ∉ (l.erase id).vouchers.map (·.1) := by
    simp [erase]
  have kept : ((l.erase id).vouchers.map (·.1)).Nodup := h.sublist (List.filter_sublist.map _)
  rw [insert, List.map_append]
  simpa using kept.concat others

/-- A voucher with an id takes the place of any other one with it. -/
lemma Holds.insert {id : String} (h : l.Holds newIds count vs) (hcount : vs.length ≤ count)
    (hid : v.id? = some id) (avoided : newIds.Avoids count id) :
    (l.insert id v).Holds newIds count (vs ++ [v]) := by
  have issued_le : l.issued ≤ (vs ++ [v]).length := by
    simpa using Nat.le_succ_of_le h.issued_le
  refine ⟨?_, nodup_insert h.distinct id v, issued_le⟩
  -- what the voucher replaces is what the ledger erases, entry by entry
  have same : ∀ {u entry}, Keeps newIds count l.issued u entry →
      (decide (¬ v.Replaces u) = true ↔ (entry.1 != id) = true) := by
    intro u entry hu
    have : v.Replaces u ↔ entry.1 = id := by
      rw [← hu.id_iff (h.issued_le.trans hcount) avoided, Replaces, hid, eq_comm]
      exact and_iff_right_of_imp fun h => by simp [h]
    simp [this]
  rw [latest_concat]
  refine List.rel_append (List.rel_filter (fun _ _ hu => same hu) h.kept) (.cons ⟨rfl, ?_⟩ .nil)
  exact .inl ⟨hid, avoided⟩

/-- A voucher without an id gets a new one, and replaces nothing. -/
lemma Holds.insert_newId (h : l.Holds newIds count vs) (distinct : newIds.Distinct count)
    (hcount : vs.length < count) (hid : v.id? = none) :
    { l.insert (newIds l.issued) v with issued := l.issued + 1 }.Holds newIds count (vs ++ [v]) := by
  have issued_le : l.issued + 1 ≤ (vs ++ [v]).length := by
    simpa using h.issued_le
  refine ⟨?_, nodup_insert h.distinct (newIds l.issued) v, issued_le⟩
  have same : ∀ {u entry}, Keeps newIds count l.issued u entry →
      (decide (¬ v.Replaces u) = true ↔ (entry.1 != newIds l.issued) = true) := by
    intro u entry hu
    have : ¬ v.Replaces u := fun ⟨hne, hreplaces⟩ => hne (hreplaces.symm.trans hid)
    simp [this, hu.ne_newId distinct (h.issued_le.trans_lt hcount)]
  have kept := List.rel_filter (fun _ _ hu => same hu) h.kept
  rw [latest_concat]
  refine List.rel_append (kept.imp fun _ _ hu => hu.mono (Nat.le_succ _)) (.cons ⟨rfl, ?_⟩ .nil)
  exact .inr ⟨hid, l.issued, Nat.lt_succ_self _, rfl⟩

lemma upsert_of_id {id : String} (h : v.violations = .ok []) (hid : v.id? = some id) :
    l.upsert newIds v = .ok (id, l.insert id v) := by
  rw [upsert, h, hid]
  rfl

lemma upsert_of_no_id (h : v.violations = .ok []) (hid : v.id? = none) :
    l.upsert newIds v
      = .ok (newIds l.issued, { l.insert (newIds l.issued) v with issued := l.issued + 1 }) := by
  rw [upsert, h, hid]
  rfl

/-- A voucher that breaks no rule is taken in. -/
lemma Holds.upsert (h : l.Holds newIds count vs) (distinct : newIds.Distinct count)
    (hcount : vs.length < count) (valid : v.violations = .ok [])
    (avoided : ∀ id ∈ v.id?, newIds.Avoids count id) :
    ∃ id l', l.upsert newIds v = .ok (id, l') ∧ l'.Holds newIds count (vs ++ [v]) := by
  cases hid : v.id? with
  | some id =>
    exact ⟨id, _, upsert_of_id valid hid, h.insert hcount.le hid (avoided id hid)⟩
  | none =>
    exact ⟨_, _, upsert_of_no_id valid hid, h.insert_newId distinct hcount hid⟩

lemma Holds.upsertAll (h : l.Holds newIds count vs) (distinct : newIds.Distinct count)
    (hcount : vs.length + ws.length ≤ count) (valid : ∀ v ∈ ws, v.violations = .ok [])
    (avoided : ∀ v ∈ ws, ∀ id ∈ v.id?, newIds.Avoids count id) :
    ∃ l', l.upsertAll newIds ws = .ok l' ∧ l'.Holds newIds count (vs ++ ws) := by
  induction ws generalizing l vs with
  | nil => exact ⟨l, rfl, by rwa [List.append_nil]⟩
  | cons v ws ih =>
    obtain ⟨validFirst, valid⟩ := List.forall_mem_cons.1 valid
    obtain ⟨avoidedFirst, avoided⟩ := List.forall_mem_cons.1 avoided
    rw [List.length_cons] at hcount
    obtain ⟨id, l', hupsert, holds⟩ := h.upsert distinct (by omega) validFirst avoidedFirst
    have hcount' : (vs ++ [v]).length + ws.length ≤ count := by
      rw [List.length_append, List.length_singleton]
      omega
    obtain ⟨l'', hall, holds⟩ := ih holds hcount' valid avoided
    refine ⟨l'', ?_, by rwa [List.append_assoc] at holds⟩
    rw [Ledger.upsertAll, hupsert, ok_bind]
    exact hall

/-- Vouchers without findings break no rule. -/
lemma violations_of_findings (h : findings vs = .ok []) : ∀ v ∈ vs, v.violations = .ok [] := by
  intro v hv
  obtain ⟨all, hall, h⟩ := bind_eq_ok.1 h
  obtain ⟨fs, hfs, hfound⟩ := exists_of_mem_forall₂ (mapM_eq_ok.1 hall).flip hv
  obtain rfl : fs = [] := List.flatten_eq_nil_iff.1 (Except.ok.inj h) fs hfs
  obtain ⟨rules, hrules, hnone⟩ := bind_eq_ok.1 hfound
  rw [hrules, List.map_eq_nil_iff.1 (Except.ok.inj hnone)]

/-- They can all be taken in, and the latest of them stay. -/
theorem exists_ofVouchers (valid : findings vs = .ok []) (distinct : newIds.Distinct vs.length)
    (fresh : newIds.FreshFor vs) :
    ∃ l, ofVouchers newIds vs = .ok l ∧ l.Holds newIds vs.length vs :=
  holds_empty.upsertAll distinct (Nat.zero_add _).le (violations_of_findings valid) fresh

end Ledger

/-- What was sold in the end, under the id of the sale. -/
def Voucher.correctedSale : Voucher where
  id? := some "sale"
  date? := some .february1
  kind := .ordinary
  remark? := none
  entries := [.plain 1001 (Decimal.of? 1350 2), .plain 6001 (Decimal.of? (-1350) 2)]

/-- The correction takes the place of the sale, and both deposits stay. -/
example : (Ledger.ofVouchers (.numbered "new-") [.sale, .deposit, .correctedSale, .deposit]).toOption.map
    (·.vouchers.map (·.1)) = some ["new-0", "sale", "new-1"] := by decide

namespace Ledger

open Voucher

variable {newIds : IdSource} {count issued : ℕ} {entry : String × Voucher}

/-! ### Scans -/

/-- The voucher under its own id or, if it has none, under some other one. -/
def FilledIn (v w : Voucher) : Prop :=
  ∃ id, w = { v with id? := some id } ∧ (v.id? = some id ∨ v.id? = none)

lemma Keeps.filledIn (h : Keeps newIds count issued v entry) : FilledIn v entry.2 :=
  ⟨entry.1, h.filled, h.under.imp And.left And.left⟩

lemma Holds.filledIn (h : l.Holds newIds count vs) :
    List.Forall₂ FilledIn (latest vs) (l.vouchers.map (·.2)) := by
  rw [List.forall₂_map_right_iff]
  exact h.kept.imp fun _ _ hu => hu.filledIn

/-- A scan hands out the vouchers in its range. -/
lemma scan_perm (l : Ledger) (range : DateRange) :
    (l.scan range).Perm ((l.vouchers.map (·.2)).filter fun v => range.contains v.date?) := by
  rw [List.filter_map]
  exact (List.mergeSort_perm _ _).map _

lemma scan_unconstrained_perm (l : Ledger) :
    (l.scan .unconstrained).Perm (l.vouchers.map (·.2)) := by
  simpa using l.scan_perm .unconstrained

/-- No two vouchers of a scan have the same id. -/
lemma Holds.nodup_scan (h : l.Holds newIds count vs) (range : DateRange) :
    ((l.scan range).map (·.id?)).Nodup := by
  have ids : (l.vouchers.map (·.2)).map (·.id?) = (l.vouchers.map (·.1)).map some := by
    rw [List.map_map, List.map_map]
    refine List.map_congr_left fun entry hentry => ?_
    obtain ⟨v, _, hv⟩ := exists_of_mem_forall₂ h.kept hentry
    exact congrArg (·.id?) hv.filled
  have nodup : ((l.vouchers.map (·.2)).map (·.id?)).Nodup := by
    rw [ids]
    exact h.distinct.map (Option.some_injective _)
  rw [((l.scan_perm range).map _).nodup_iff]
  exact nodup.sublist (List.filter_sublist.map _)

end Ledger

end Daybook
