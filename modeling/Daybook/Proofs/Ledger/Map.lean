import Daybook.Proofs.Calendar.Day
import Daybook.Proofs.Ledger.Content
import Daybook.Proofs.Ledger.History

/-!
# A ledger as a map

A ledger is a finite map from ids to vouchers. After any history of changes there is under each id what was
written there last, unless it was taken out again, and a scan lists the vouchers of its range in order
(`Ledger.records_after`). Only vouchers that break no rule are written.
-/

namespace Daybook

/-- The first voucher stands before the second one in a scan: those without date come first, then it is the
date that counts, and the id within a day. -/
inductive Voucher.Precedes (v w : Voucher) : Prop
  | undated (hv : v.date? = none) (hw : w.date? ≠ none)
  | earlier {d e : Date} (hv : v.date? = some d) (hw : w.date? = some e) (hlt : d < e)
  | sameDate {i j : String} (hdate : v.date? = w.date?) (hv : v.id? = some i) (hw : w.id? = some j)
      (hlt : i < j)

lemma Voucher.Precedes.ne {v w : Voucher} (h : v.Precedes w) : v ≠ w := by
  rintro rfl
  cases h with
  | undated hv hw => exact hw hv
  | earlier hv hw hlt =>
    cases hv.symm.trans hw
    exact Date.lt_irrefl _ hlt
  | sameDate _ hv hw hlt =>
    cases hv.symm.trans hw
    exact String.lt_irrefl _ hlt

namespace Ledger

variable {newIds : IdSource} {l l' : Ledger} {c : Change} {v w : Voucher} {key : String} {history : List Change}

/-! ### Writes -/

/-- What changes write, in order, on a ledger that has handed out some new ids: a voucher under an id, with the
id filled in, or nothing under it any more. A voucher that breaks a rule is not written. A new id is written
like any other, so a voucher that came with it is replaced. -/
def writes (newIds : IdSource) (issued : ℕ) : List Change → List (String × Option Voucher)
  | [] => []
  | .delete id :: history => (id, none) :: writes newIds issued history
  | .upsert v :: history =>
    if v.violations = .ok [] then
      match v.id? with
      | some id => (id, some { v with id? := some id }) :: writes newIds issued history
      | none    =>
        (newIds issued, some { v with id? := some (newIds issued) }) ::
          writes newIds (issued + 1) history
    else writes newIds issued history

lemma get?_erase (l : Ledger) (key : String) :
    (l.erase key).get? = Function.update l.get? key none := by
  funext other
  rw [get?, erase, List.find?_filter]
  rcases eq_or_ne other key with rfl | hne
  · rw [Function.update_self, List.find?_eq_none.2 (by simp)]
    rfl
  · rw [Function.update_of_ne hne, get?]
    congr 2
    funext entry
    by_cases hentry : entry.1 = other
    · simp [hentry, hne]
    · simp [hentry]

lemma get?_insert (l : Ledger) (key : String) (v : Voucher) :
    (l.insert key v).get? = Function.update l.get? key (some { v with id? := some key }) := by
  funext other
  have rest : (l.insert key v).get? other
      = ((l.erase key).get? other).or (if key = other then some { v with id? := some key } else none) := by
    simp only [get?, insert, List.find?_append, List.find?_singleton, Option.map_or]
    congr 1
    by_cases h : key = other <;> simp [h]
  rw [rest, get?_erase]
  rcases eq_or_ne other key with rfl | hne
  · simp
  · simp [hne, hne.symm]

/-- The map of a ledger changes where something is written. -/
lemma get?_foldl (newIds : IdSource) (l : Ledger) (history : List Change) :
    (history.foldl (change newIds) l).get?
      = (writes newIds l.issued history).foldl (fun m write => Function.update m write.1 write.2) l.get? := by
  induction history generalizing l with
  | nil => rfl
  | cons c history ih =>
    rw [List.foldl_cons, ih]
    have step := l.changes_change newIds c
    generalize l.change newIds c = l' at step
    cases step with
    | erased key => rw [writes, get?_erase, List.foldl_cons]; rfl
    | refused broken => rw [writes, if_neg broken]
    | inserted valid hid =>
      rw [writes, if_pos valid, hid, get?_insert]
      rfl
    | @issued v valid hid =>
      have same : get? { l.insert (newIds l.issued) v with issued := l.issued + 1 }
          = (l.insert (newIds l.issued) v).get? := rfl
      rw [writes, if_pos valid, hid, List.foldl_cons, ← get?_insert]
      rfl

/-- In the end there is under a key what was written there last, or what was there before. -/
lemma foldl_update_eq_some (log : List (String × Option Voucher)) (m : String → Option Voucher) :
    log.foldl (fun m write => Function.update m write.1 write.2) m key = some w ↔
      (∃ earlier later, log = earlier ++ (key, some w) :: later ∧ ∀ write ∈ later, write.1 ≠ key) ∨
      (∀ write ∈ log, write.1 ≠ key) ∧ m key = some w := by
  induction log generalizing m with
  | nil => simp
  | cons write log ih =>
    rw [List.foldl_cons, ih]
    constructor
    · -- (→) the write that counts is a later one, or this one
      rintro (⟨earlier, later, rfl, hlater⟩ | ⟨hlog, hm⟩)
      · exact .inl ⟨write :: earlier, later, rfl, hlater⟩
      · -- nothing later is written there: it was the first write, or none
        by_cases hkey : key = write.1
        · rw [hkey, Function.update_self] at hm
          exact .inl ⟨[], log, by rw [hkey, ← hm]; rfl, hlog⟩
        · rw [Function.update_of_ne hkey] at hm
          exact .inr ⟨List.forall_mem_cons.2 ⟨Ne.symm hkey, hlog⟩, hm⟩
    · -- (←) behind this write there is another one to the key, or none
      rintro (⟨earlier, later, hlog, hlater⟩ | ⟨hlog, hm⟩)
      · cases earlier with
        | nil =>
          cases hlog
          exact .inr ⟨hlater, Function.update_self ..⟩
        | cons first earlier =>
          cases hlog
          exact .inl ⟨earlier, later, rfl, hlater⟩
      · obtain ⟨hfirst, hlog⟩ := List.forall_mem_cons.1 hlog
        exact .inr ⟨hlog, by rwa [Function.update_of_ne hfirst.symm]⟩

/-- After a history there is under an id what was written there last. -/
lemma get?_after (newIds : IdSource) (history : List Change) :
    (after newIds history).get? key = some w ↔
      ∃ earlier later, writes newIds 0 history = earlier ++ (key, some w) :: later ∧
        ∀ write ∈ later, write.1 ≠ key := by
  rw [after, get?_foldl, foldl_update_eq_some, or_iff_left]
  · rfl
  · rintro ⟨_, h⟩
    cases h

/-! ### Keys -/

/-- Every voucher in the ledger is there once, under its own id. -/
structure Keyed (l : Ledger) : Prop where
  distinct : (l.vouchers.map (·.1)).Nodup
  own_id : ∀ entry ∈ l.vouchers, entry.2.id? = some entry.1

lemma keyed_empty : empty.Keyed := ⟨.nil, fun _ h => absurd h List.not_mem_nil⟩

lemma Keyed.erase (h : l.Keyed) (key : String) : (l.erase key).Keyed where
  distinct := h.distinct.sublist (List.filter_sublist.map _)
  own_id entry hentry := h.own_id entry (List.mem_of_mem_filter hentry)

lemma Keyed.insert (h : l.Keyed) (key : String) (v : Voucher) : (l.insert key v).Keyed where
  distinct := nodup_insert h.distinct key v
  own_id entry hentry := by
    rcases List.mem_append.1 hentry with hentry | hentry
    · exact (h.erase key).own_id entry hentry
    · rw [List.mem_singleton.1 hentry]

lemma Keyed.changes (h : l.Keyed) (hc : l.Changes newIds c l') : l'.Keyed := by
  cases hc with
  | erased key => exact h.erase key
  | refused => exact h
  | inserted => exact h.insert _ _
  | issued => exact ⟨(h.insert _ _).distinct, (h.insert _ _).own_id⟩

lemma Keyed.get?_eq_some (h : l.Keyed) : l.get? key = some w ↔ (key, w) ∈ l.vouchers := by
  constructor
  · intro hget
    obtain ⟨entry, hfind, rfl⟩ := Option.map_eq_some_iff.1 hget
    have hkey : entry.1 = key := by simpa using List.find?_some hfind
    exact hkey ▸ List.mem_of_find?_eq_some hfind
  · intro hmem
    have found : (l.vouchers.find? (·.1 == key)).isSome :=
      List.find?_isSome.2 ⟨_, hmem, by simp⟩
    obtain ⟨entry, hfind⟩ := Option.isSome_iff_exists.1 found
    have hkey : entry.1 = key := by simpa using List.find?_some hfind
    obtain rfl := List.inj_on_of_nodup_map h.distinct (List.mem_of_find?_eq_some hfind) hmem hkey
    rw [get?, hfind, Option.map_some]

lemma Keyed.size_eq (h : l.Keyed) :
    ∃ ids : Finset String, (∀ id, id ∈ ids ↔ ∃ w, l.get? id = some w) ∧ l.size = ids.card := by
  refine ⟨(l.vouchers.map (·.1)).toFinset, fun id => ?_, ?_⟩
  · simp only [List.mem_toFinset, List.mem_map, h.get?_eq_some]
    constructor
    · rintro ⟨⟨_, w⟩, hmem, rfl⟩
      exact ⟨w, hmem⟩
    · rintro ⟨w, hmem⟩
      exact ⟨_, hmem, rfl⟩
  · rw [List.toFinset_card_of_nodup h.distinct, List.length_map, size]

/-! ### Scans -/

lemma dateLe_trans {a b d : Option Date} (hab : dateLe a b = true) (hbd : dateLe b d = true) :
    dateLe a d = true := by
  cases a with
  | none => rfl
  | some a =>
    cases b with
    | none => cases hab
    | some b =>
      cases d with
      | none => cases hbd
      | some d =>
        simp only [dateLe, decide_eq_true_eq] at hab hbd ⊢
        exact Date.le_trans hab hbd

lemma dateLe_total (a b : Option Date) : dateLe a b = true ∨ dateLe b a = true := by
  cases a with
  | none => exact .inl rfl
  | some a =>
    cases b with
    | none => exact .inr rfl
    | some b =>
      simp only [dateLe, decide_eq_true_eq]
      exact Date.le_total a b

lemma dateLe_antisymm {a b : Option Date} (hab : dateLe a b = true) (hba : dateLe b a = true) :
    a = b := by
  cases a with
  | none =>
    cases b with
    | none => rfl
    | some b => cases hba
  | some a =>
    cases b with
    | none => cases hab
    | some b =>
      simp only [dateLe, decide_eq_true_eq] at hab hba
      rw [Date.le_antisymm hab hba]

lemma dateLe_refl (a : Option Date) : dateLe a a = true := (dateLe_total a a).elim id id

/-- A scan goes by date first, and by id where the dates are the same. -/
lemma scanLe_iff {a b : String × Voucher} : scanLe a b = true ↔
    dateLe a.2.date? b.2.date? = true ∧ (a.2.date? = b.2.date? → a.1 ≤ b.1) := by
  unfold scanLe
  split
  · next h => simp [h, dateLe_refl]
  · next h => simp [h]

lemma scanLe_trans {a b d : String × Voucher} (hab : scanLe a b = true) (hbd : scanLe b d = true) :
    scanLe a d = true := by
  rw [scanLe_iff] at hab hbd ⊢
  refine ⟨dateLe_trans hab.1 hbd.1, fun hdate => ?_⟩
  have same : a.2.date? = b.2.date? := dateLe_antisymm hab.1 (hdate ▸ hbd.1)
  exact String.le_trans (hab.2 same) (hbd.2 (same.symm.trans hdate))

lemma scanLe_total (a b : String × Voucher) : scanLe a b = true ∨ scanLe b a = true := by
  rw [scanLe_iff, scanLe_iff]
  by_cases hdate : a.2.date? = b.2.date?
  · simp only [hdate, dateLe_refl, true_and, forall_const]
    exact String.le_total a.1 b.1
  · refine (dateLe_total a.2.date? b.2.date?).imp (fun h => ⟨h, ?_⟩) fun h => ⟨h, ?_⟩
    · exact fun h => absurd h hdate
    · exact fun h => absurd h.symm hdate

lemma precedes_of_scanLe {a b : String × Voucher} (ha : a.2.id? = some a.1)
    (hb : b.2.id? = some b.1) (hne : a.1 ≠ b.1) (h : scanLe a b = true) : a.2.Precedes b.2 := by
  obtain ⟨hdate, hid⟩ := scanLe_iff.1 h
  by_cases same : a.2.date? = b.2.date?
  · exact .sameDate same ha hb (lt_of_le_of_ne (hid same) hne)
  · cases hd : a.2.date? with
    | none => exact .undated hd fun he => same (hd.trans he.symm)
    | some d =>
      cases he : b.2.date? with
      | none =>
        rw [hd, he] at hdate
        cases hdate
      | some e =>
        rw [hd, he] at hdate same
        exact .earlier hd he (Date.lt_of_le_of_ne (of_decide_eq_true hdate) (by simpa using same))

/-- What a scan lists is in order, and nothing is listed twice. -/
lemma Keyed.scan_ordered (h : l.Keyed) (range : DateRange) :
    (l.scan range).Pairwise Voucher.Precedes := by
  let listed := l.vouchers.filter fun entry => range.contains entry.2.date?
  have perm : (listed.mergeSort scanLe).Perm listed := List.mergeSort_perm _ _
  have sorted : (listed.mergeSort scanLe).Pairwise fun a b => scanLe a b = true := by
    apply List.pairwise_mergeSort
    · exact fun _ _ _ => scanLe_trans
    · intro a b
      rw [Bool.or_eq_true]
      exact scanLe_total a b
  have distinct : ((listed.mergeSort scanLe).map (·.1)).Nodup :=
    (perm.map _).nodup_iff.2 (h.distinct.sublist (List.filter_sublist.map _))
  have own : ∀ entry ∈ listed.mergeSort scanLe, entry.2.id? = some entry.1 :=
    fun entry hentry => h.own_id entry (List.mem_of_mem_filter (perm.mem_iff.1 hentry))
  rw [scan, List.pairwise_map]
  refine (sorted.and (List.pairwise_map.1 distinct)).imp_of_mem fun ha hb h => ?_
  exact precedes_of_scanLe (own _ ha) (own _ hb) h.2 h.1

lemma Keyed.mem_scan (h : l.Keyed) {range : DateRange} :
    w ∈ l.scan range ↔ ∃ id, l.get? id = some w ∧ range.contains w.date? = true := by
  simp only [(l.scan_perm range).mem_iff, List.mem_filter, List.mem_map, h.get?_eq_some]
  constructor
  · rintro ⟨⟨⟨id, _⟩, hmem, rfl⟩, hrange⟩
    exact ⟨id, hmem, hrange⟩
  · rintro ⟨id, hmem, hrange⟩
    exact ⟨⟨_, hmem, rfl⟩, hrange⟩

/-! ### Histories -/

/-- The ledger is what a history of changes has made of an empty one: a map with what was written last, of
vouchers that break no rule, together with its listings. -/
structure Records (newIds : IdSource) (l : Ledger) (history : List Change) : Prop where
  /-- A voucher is under an id if it was written there last, and not taken out later. -/
  get?_eq_some : ∀ id w, l.get? id = some w ↔ ∃ earlier later,
    writes newIds 0 history = earlier ++ (id, some w) :: later ∧ ∀ write ∈ later, write.1 ≠ id
  own_id : ∀ id w, l.get? id = some w → w.id? = some id
  checked : ∀ id w, l.get? id = some w → w.violations = .ok []
  size_eq : ∃ ids : Finset String, (∀ id, id ∈ ids ↔ ∃ w, l.get? id = some w) ∧ l.size = ids.card
  mem_scan : ∀ range w, w ∈ l.scan range ↔
    ∃ id, l.get? id = some w ∧ range.contains w.date? = true
  nodup_scan : ∀ range, (l.scan range).Nodup
  scan_ordered : ∀ range, (l.scan range).Pairwise Voucher.Precedes

/-- What the ledger answers to a change, and when it stays as it is. -/
structure Answers (newIds : IdSource) (l : Ledger) : Prop where
  accepts : ∀ v, v.violations = .ok [] →
    l.upsert newIds v = .ok (v.id?.getD (newIds l.issued), l.change newIds (.upsert v))
  rejects : ∀ v rules, v.violations = .ok rules → rules ≠ [] →
    l.upsert newIds v = .error (.error (.rejected (rules.map (·.render)))) ∧
      l.change newIds (.upsert v) = l
  overflows : ∀ v o, v.violations = .error o →
    l.upsert newIds v = .error (.overflow o) ∧ l.change newIds (.upsert v) = l
  deletes : ∀ id, l.delete id = ((l.get? id).isSome, l.change newIds (.delete id))

lemma answers (newIds : IdSource) (l : Ledger) : l.Answers newIds where
  accepts v valid := by
    rw [change]
    cases hid : v.id? with
    | some id => rw [upsert_of_id valid hid, Option.getD_some]
    | none => rw [upsert_of_no_id valid hid, Option.getD_none]
  rejects v rules broken hrules := by
    have rejected := upsert_of_rules newIds l broken hrules
    exact ⟨rejected, by rw [change, rejected]⟩
  overflows v o hv := by
    have overflown := upsert_of_overflow newIds l hv
    exact ⟨overflown, by rw [change, overflown]⟩
  deletes _ := rfl

/-- After any history a ledger is the map of what was written last under each id, with nothing in it that
breaks a rule; it lists what is in a range in order, once each. To a further change it answers with an id, or
with the broken rules and stays as it is; to a deletion, with whether the id was there. -/
theorem records_after (newIds : IdSource) (history : List Change) :
    (after newIds history).Records newIds history ∧ (after newIds history).Answers newIds := by
  have keyed : (after newIds history).Keyed := after_induction keyed_empty Keyed.changes history
  refine ⟨?_, answers newIds _⟩
  constructor
  case get?_eq_some => exact fun id w => get?_after newIds history
  case own_id => exact fun id w hw => keyed.own_id _ (keyed.get?_eq_some.1 hw)
  case checked =>
    exact fun id w hw => Valid.after newIds history w (List.mem_map_of_mem (keyed.get?_eq_some.1 hw))
  case size_eq => exact keyed.size_eq
  case mem_scan => exact fun range w => keyed.mem_scan
  case nodup_scan => exact fun range => (keyed.scan_ordered range).imp Voucher.Precedes.ne
  case scan_ordered => exact keyed.scan_ordered

/-- A correction takes the place of the sale, the exchange is refused, and the deposit is taken out again. -/
example : (after (.numbered "new-") [.upsert .sale, .upsert .deposit, .upsert .exchange,
    .upsert .correctedSale, .delete "new-0"]).vouchers = [("sale", .correctedSale)] := by decide

end Ledger

end Daybook
