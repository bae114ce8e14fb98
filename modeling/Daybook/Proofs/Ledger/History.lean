import Daybook.Proofs.Ledger.Content
import Daybook.Proofs.Voucher.Violations

/-!
# Histories of a ledger

A ledger changes by upserts and deletions, one after the other. A voucher that is rejected, or whose
amounts overflow, leaves it as it is. Whatever the history, every voucher in the ledger breaks no rule
(`Ledger.Valid.after`), so its amounts in each currency come to zero when they are added up in order
(`Ledger.Valid.balanced`).
-/

namespace Daybook

/-! ### Balanced vouchers -/

/-- The amounts in each currency, added up in order, come to zero. -/
def Voucher.Balanced (v : Voucher) : Prop :=
  ∀ currency, ∃ t, Arithmetic.rounding.sum ((v.entriesIn currency).map Entry.amount) = .ok t ∧
    t.isZero = true

namespace Voucher

variable {v : Voucher}

/-- A voucher that breaks no rule is balanced in every currency. -/
theorem balanced_of_violations (h : v.violations = .ok []) : v.Balanced := by
  intro currency
  by_cases hmem : currency ∈ v.currencies
  · obtain ⟨total, htotal, hzero⟩ := (violations_eq_nil_iff.1 h).balanced currency hmem
    exact ⟨total, (balanceIn?_eq_some.1 htotal).2, hzero⟩
  · rw [entriesIn_eq_nil_iff.2 hmem]
    exact ⟨_, rfl, rfl⟩

end Voucher

/-! ### Changes -/

namespace Ledger

/-- A change of a ledger that may be asked for. -/
inductive Change where
  | upsert (v : Voucher)
  | delete (id : String)

/-- The ledger after a change. An upsert that fails changes nothing. -/
def change (newIds : IdSource) (l : Ledger) : Change → Ledger
  | .upsert v =>
    match l.upsert newIds v with
    | .ok (_, l') => l'
    | .error _    => l
  | .delete id => (l.delete id).2

/-- The ledger after changes, from an empty one on. -/
def after (newIds : IdSource) (history : List Change) : Ledger := history.foldl (change newIds) empty

variable {newIds : IdSource} {l : Ledger} {v w : Voucher} {id : String}

lemma upsert_of_rules (newIds : IdSource) (l : Ledger) {rules : List Rule}
    (h : v.violations = .ok rules) (hrules : rules ≠ []) :
    l.upsert newIds v = .error (.error (.rejected (rules.map (·.render)))) := by
  rw [upsert, h, liftM_eq_liftOverflow, liftOverflow_ok, ok_bind,
    if_neg (by simpa using hrules)]
  rfl

lemma upsert_of_overflow (newIds : IdSource) (l : Ledger) {o : Overflow} (h : v.violations = .error o) :
    l.upsert newIds v = .error (.overflow o) := by
  rw [upsert, h]
  rfl

/-- What a change does to a ledger. -/
inductive Changes (newIds : IdSource) (l : Ledger) : Change → Ledger → Prop
  | erased (id : String) : Changes newIds l (.delete id) (l.erase id)
  | refused {v : Voucher} (broken : v.violations ≠ .ok []) : Changes newIds l (.upsert v) l
  | inserted {v : Voucher} {id : String} (valid : v.violations = .ok []) (hid : v.id? = some id) :
      Changes newIds l (.upsert v) (l.insert id v)
  | issued {v : Voucher} (valid : v.violations = .ok []) (hid : v.id? = none) :
      Changes newIds l (.upsert v) { l.insert (newIds l.issued) v with issued := l.issued + 1 }

lemma changes_change (newIds : IdSource) (l : Ledger) (c : Change) :
    l.Changes newIds c (l.change newIds c) := by
  cases c with
  | delete id => exact .erased id
  | upsert v =>
    rw [change]
    cases hv : v.violations with
    | error o =>
      rw [upsert_of_overflow newIds l hv]
      exact .refused (by simp [hv])
    | ok rules =>
      by_cases hrules : rules = []
      · rw [hrules] at hv
        cases hid : v.id? with
        | some id =>
          rw [upsert_of_id hv hid]
          exact .inserted hv hid
        | none =>
          rw [upsert_of_no_id hv hid]
          exact .issued hv hid
      · rw [upsert_of_rules newIds l hv hrules]
        exact .refused (by simpa [hv] using hrules)

/-- What holds of an empty ledger and is kept by every change holds after any history. -/
lemma after_induction {P : Ledger → Prop} (start : P empty)
    (step : ∀ {l l' : Ledger} {c : Change}, P l → l.Changes newIds c l' → P l')
    (history : List Change) : P (after newIds history) := by
  -- over all ledgers, since the induction goes on from the one after the first change
  have kept : ∀ {l : Ledger}, P l → P (history.foldl (change newIds) l) := by
    induction history with
    | nil => exact id
    | cons c history ih => exact fun h => ih (step h (changes_change newIds _ c))
  exact kept start

/-- The vouchers in the ledger. -/
def stored (l : Ledger) : List Voucher := l.vouchers.map (·.2)

/-- Every voucher in the ledger breaks no rule. -/
def Valid (l : Ledger) : Prop := ∀ v ∈ l.stored, v.violations = .ok []

lemma mem_stored_erase (h : w ∈ (l.erase id).stored) : w ∈ l.stored := by
  obtain ⟨entry, hentry, rfl⟩ := List.mem_map.1 h
  exact List.mem_map_of_mem (List.mem_of_mem_filter hentry)

lemma mem_stored_insert (h : w ∈ (l.insert id v).stored) :
    w ∈ l.stored ∨ w = { v with id? := some id } := by
  rw [stored, insert, List.map_append, List.mem_append, List.map_singleton,
    List.mem_singleton] at h
  exact h.imp_left mem_stored_erase

lemma valid_empty : empty.Valid := fun _ hv => absurd hv List.not_mem_nil

/-- No rule is about the id. -/
lemma Valid.insert (h : l.Valid) (hv : v.violations = .ok []) : (l.insert id v).Valid := by
  intro w hw
  rcases mem_stored_insert hw with hw | rfl
  · exact h w hw
  · exact hv

/-- A change keeps out what breaks a rule. -/
theorem Valid.changes {l' : Ledger} {c : Change} (h : l.Valid) (hc : l.Changes newIds c l') :
    l'.Valid := by
  cases hc with
  | erased id => exact fun w hw => h w (mem_stored_erase hw)
  | refused => exact h
  | inserted valid => exact h.insert valid
  | issued valid => exact h.insert valid

/-- So does any history. -/
theorem Valid.after (newIds : IdSource) (history : List Change) : (after newIds history).Valid :=
  after_induction valid_empty Valid.changes history

lemma Valid.balanced (h : l.Valid) (hv : v ∈ l.stored) : v.Balanced :=
  Voucher.balanced_of_violations (h v hv)

end Ledger

end Daybook
