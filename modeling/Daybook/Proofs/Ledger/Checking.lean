import Daybook.CommandLine.Check
import Daybook.Proofs.Ledger.Content
import Daybook.Proofs.Ledger.History
import Daybook.Proofs.Voucher.Violations

/-!
# Checking and booking

Vouchers can be checked in three ways: by looking for findings, by taking them into a new ledger, and by the
command `check` on a file. All of them accept the same lists of vouchers, the ones in which every voucher can be
booked, and what they say about the others are the same broken rules (`checks_agree`).
-/

namespace Daybook

open CommandLine

variable {vs : List Voucher} {v : Voucher} {found : List Finding}

/-! ### Findings -/

namespace Voucher

/-- What is found on a voucher: the rules that it breaks, each once and in order, with its id and date. If it has
no entries, nothing else is found. -/
structure Inspected (v : Voucher) (found : List Finding) : Prop where
  findings_eq : v.findings = .ok found
  lists : v.Lists (found.map (·.rule))
  named : ∀ f ∈ found, f.voucherId? = v.id? ∧ f.date? = v.date?
  no_entries : v.entries = [] → found = [⟨.noEntries, v.id?, v.date?⟩]

lemma Inspected.violations_eq (h : v.Inspected found) : v.violations = .ok (found.map (·.rule)) := by
  obtain ⟨rules, hrules, hfound⟩ := bind_eq_ok.1 h.findings_eq
  cases hfound
  rw [hrules, List.map_map]
  exact congrArg _ (List.map_id _).symm

/-- Nothing is found on a voucher that can be booked. -/
lemma Inspected.eq_nil_iff (h : v.Inspected found) : found = [] ↔ v.Bookable := by
  rw [← violations_eq_nil_iff, h.violations_eq, Except.ok.injEq, List.map_eq_nil_iff]

lemma BalancesFit.exists_inspected (fits : v.BalancesFit) : ∃ found, v.Inspected found := by
  obtain ⟨rules, hrules, lists⟩ := exists_violations fits
  refine ⟨_, findings_of_violations hrules, ?lists, ?named, ?no_entries⟩
  case lists =>
    rw [List.map_map]
    exact (List.map_id rules).symm ▸ lists
  case named =>
    intro f hf
    obtain ⟨rule, _, rfl⟩ := List.mem_map.1 hf
    exact ⟨rfl, rfl⟩
  case no_entries =>
    intro hnone
    rw [violations, hnone] at hrules
    cases hrules
    rfl

end Voucher

lemma exists_inspected (fits : ∀ v ∈ vs, v.BalancesFit) :
    ∃ all, findings vs = .ok all.flatten ∧ List.Forall₂ Voucher.Inspected vs all := by
  have each : ∃ all, List.Forall₂ Voucher.Inspected vs all := by
    induction vs with
    | nil => exact ⟨[], .nil⟩
    | cons v vs ih =>
      obtain ⟨fitsFirst, fits⟩ := List.forall_mem_cons.1 fits
      obtain ⟨found, first⟩ := fitsFirst.exists_inspected
      obtain ⟨all, rest⟩ := ih fits
      exact ⟨found :: all, .cons first rest⟩
  obtain ⟨all, inspected⟩ := each
  refine ⟨all, ?_, inspected⟩
  rw [findings, mapM_eq_ok.2 (inspected.imp fun _ _ h => h.findings_eq)]
  rfl

/-- Nothing is found on vouchers that can all be booked. -/
lemma findings_eq_nil_iff : findings vs = .ok [] ↔ ∀ v ∈ vs, v.Bookable := by
  constructor
  · intro h v hv
    exact Voucher.violations_eq_nil_iff.1 (Ledger.violations_of_findings h v hv)
  · intro bookable
    obtain ⟨all, hall, inspected⟩ := exists_inspected fun v hv => (bookable v hv).balancesFit
    have none : ∀ found ∈ all, found = [] := by
      intro found hfound
      obtain ⟨v, hv, h⟩ := exists_of_mem_forall₂ inspected hfound
      exact h.eq_nil_iff.2 (bookable v hv)
    rw [hall, List.flatten_eq_nil_iff.2 none]

/-! ### Ledgers -/

namespace Ledger

lemma exists_upsert_of_bookable (newIds : IdSource) (l : Ledger) (h : v.Bookable) :
    ∃ id l', l.upsert newIds v = .ok (id, l') := by
  have valid := Voucher.violations_eq_nil_iff.2 h
  cases hid : v.id? with
  | some id => exact ⟨_, _, upsert_of_id valid hid⟩
  | none => exact ⟨_, _, upsert_of_no_id valid hid⟩

/-- A voucher that cannot be booked is rejected with what is found on it. -/
lemma upsert_of_not_bookable (newIds : IdSource) (l : Ledger) (inspected : v.Inspected found)
    (h : ¬ v.Bookable) :
    l.upsert newIds v = .error (.error (.rejected (found.map (·.rule.render)))) := by
  have broken : found.map (·.rule) ≠ [] := by
    rwa [Ne, List.map_eq_nil_iff, inspected.eq_nil_iff]
  rw [upsert_of_rules newIds l inspected.violations_eq broken, List.map_map]
  rfl

/-- Either all vouchers are taken in, or the first one that cannot be booked stops it. -/
lemma upsertAll_cases (newIds : IdSource) (l : Ledger) (fits : ∀ v ∈ vs, v.BalancesFit) :
    (∀ v ∈ vs, v.Bookable) ∧ (∃ l', l.upsertAll newIds vs = .ok l') ∨
    ∃ earlier v later found, vs = earlier ++ v :: later ∧ (∀ u ∈ earlier, u.Bookable) ∧ ¬ v.Bookable ∧
      v.Inspected found ∧
      l.upsertAll newIds vs = .error (.error (.rejected (found.map (·.rule.render)))) := by
  induction vs generalizing l with
  | nil => exact .inl ⟨List.forall_mem_nil _, l, rfl⟩
  | cons v vs ih =>
    obtain ⟨fitsFirst, fits⟩ := List.forall_mem_cons.1 fits
    by_cases hv : v.Bookable
    · obtain ⟨id, l', hl'⟩ := exists_upsert_of_bookable newIds l hv
      have rest : l.upsertAll newIds (v :: vs) = l'.upsertAll newIds vs := by
        rw [upsertAll, hl', ok_bind]
      rw [rest]
      -- what is rejected behind `v` is rejected with the same words, only further back
      rcases ih l' fits with ⟨bookable, hall⟩ | ⟨earlier, w, later, found, rfl, bookable, rejected⟩
      · exact .inl ⟨List.forall_mem_cons.2 ⟨hv, bookable⟩, hall⟩
      · exact .inr ⟨v :: earlier, w, later, found, rfl, List.forall_mem_cons.2 ⟨hv, bookable⟩, rejected⟩
    · obtain ⟨found, inspected⟩ := fitsFirst.exists_inspected
      refine .inr ⟨[], v, vs, found, rfl, List.forall_mem_nil _, hv, inspected, ?_⟩
      rw [upsertAll, upsert_of_not_bookable newIds l inspected hv, error_bind]

end Ledger

/-! ### The command -/

/-- The exit code of the command says whether something was found. -/
lemma CommandLine.CheckArgs.run_eq {args : CheckArgs} {files : FileReader}
    (hload : loadVouchers files args.path = .ok vs) (hfound : findings vs = .ok found) (elapsed : String) :
    args.run files elapsed = .ok ⟨if found.isEmpty then 0 else 1, args.render elapsed vs found⟩ := by
  rw [run, hload]
  dsimp only
  rw [hfound]
  rfl

/-- Of vouchers whose amounts can be added up, nothing is found exactly if a new ledger takes all of them in,
exactly if each can be booked, and exactly if the command ends with zero on a file of them. Otherwise the ledger
rejects them with what is found on the first one that cannot be booked. What is found on them all are the rules
that each one breaks, voucher by voucher. -/
theorem checks_agree (newIds : IdSource) (fits : ∀ v ∈ vs, v.BalancesFit) :
    List.TFAE [findings vs = .ok [], ∃ l, Ledger.ofVouchers newIds vs = .ok l,
      ∀ v ∈ vs, v.Bookable] ∧
    (∀ (args : CheckArgs) (files : FileReader) (elapsed : String),
      loadVouchers files args.path = .ok vs → ∃ output, args.run files elapsed = .ok output ∧
        (output.exitCode = 0 ↔ ∀ v ∈ vs, v.Bookable)) ∧
    ((¬ ∀ v ∈ vs, v.Bookable) → ∃ earlier v later found, vs = earlier ++ v :: later ∧
      (∀ u ∈ earlier, u.Bookable) ∧ ¬ v.Bookable ∧ v.Inspected found ∧
      Ledger.ofVouchers newIds vs = .error (.error (.rejected (found.map (·.rule.render))))) ∧
    ∃ all, findings vs = .ok all.flatten ∧ List.Forall₂ Voucher.Inspected vs all := by
  have booked := Ledger.empty.upsertAll_cases newIds fits
  refine ⟨?accepted, ?command, ?rejected, exists_inspected fits⟩
  case accepted =>
    tfae_have 1 ↔ 3 := findings_eq_nil_iff
    tfae_have 2 ↔ 3 := by
      rcases booked with ⟨bookable, hl⟩ | ⟨earlier, v, later, found, rfl, _, hv, _, herror⟩
      · exact iff_of_true hl bookable
      · refine iff_of_false ?_ fun bookable => hv (bookable v (by simp))
        rintro ⟨l, hl⟩
        cases herror.symm.trans hl
    tfae_finish
  case command =>
    intro args files elapsed hload
    obtain ⟨all, hall, _⟩ := exists_inspected fits
    refine ⟨_, args.run_eq hload hall elapsed, ?_⟩
    rw [← findings_eq_nil_iff, hall, Except.ok.injEq]
    cases all.flatten <;> simp
  case rejected =>
    intro hnot
    rcases booked with ⟨bookable, _⟩ | rejected
    · exact absurd bookable hnot
    · exact rejected

/-! ### A file with mistakes -/

/-- A voucher with a short account and a blank currency, which does not balance, and with a long subaccount and no
amount. -/
def Voucher.misprint : Voucher where
  id? := none
  date? := none
  kind := .ordinary
  remark? := none
  entries := [{ Entry.plain 999 (some .minusOne) with currency := " " },
    { Entry.plain 6602 none with subaccount? := some 100 }]

/-- A voucher with nothing in it. -/
def Voucher.blank : Voucher := ⟨none, none, .ordinary, none, []⟩

/-- A file with a deposit and these two vouchers. -/
def mistakesText : String :=
  "[\x7b\"date\": \"2026-01-30\", \"details\": [" ++
    "\x7b\"title\": 1002, \"fund\": \"40\"\x7d, \x7b\"title\": 1001, \"fund\": \"-40\"\x7d]\x7d, " ++
  "\x7b\"details\": [\x7b\"title\": 999, \"currency\": \" \", \"fund\": \"-1\"\x7d, " ++
    "\x7b\"title\": 6602, \"sub_title\": 100\x7d]\x7d, " ++
  "\x7b\x7d]"

/-- The document of the file. -/
def mistakesDocument : Json := .arr [
  .obj [("date", .str "2026-01-30"), ("details", .arr [
    .obj [("title", .int 1002), ("fund", .str "40")],
    .obj [("title", .int 1001), ("fund", .str "-40")]])],
  .obj [("details", .arr [
    .obj [("title", .int 999), ("currency", .str " "), ("fund", .str "-1")],
    .obj [("title", .int 6602), ("sub_title", .int 100)]])],
  .obj []]

set_option maxRecDepth 20000 in
lemma parse?_mistakesText : Json.parse? mistakesText = some mistakesDocument := by
  cbv

lemma load_mistakes :
    loadVouchers (fun _ => .ok mistakesText) "ledger.json" = .ok [.deposit, .misprint, .blank] := by
  have hread : readDocument? mistakesText = some [Voucher.deposit, .misprint, .blank] := by
    rw [readDocument?, parse?_mistakesText, Option.bind_some]
    rfl
  rw [loadVouchers, readFile]
  dsimp only
  rw [hread]

/-- The deposit can be booked. The ledger rejects the voucher behind it with all that is wrong with it, down to
the currency that does not balance, and the command does not end with zero. -/
theorem mistakes_found : (∀ v ∈ [Voucher.deposit, .misprint, .blank], v.BalancesFit) ∧
    Ledger.ofVouchers (.numbered "new-") [.deposit, .misprint, .blank] = .error (.error (.rejected [
      "[E1001] Account code 999 is not 4 digits",
      "[E1003] Currency code is empty",
      "[E1002] Sub-account code 100 is not 2 digits",
      "[E3002] Detail T6602 has no amount",
      "[E3001] Voucher does not balance in  : residual -1"])) ∧
    findings [.deposit, .misprint, .blank] ≠ .ok [] ∧
    ∃ output, CheckArgs.run ⟨"ledger.json", false, false, true⟩ (fun _ => .ok mistakesText) "0ms"
      = .ok output ∧ output.exitCode ≠ 0 := by
  have fits : ∀ v ∈ [Voucher.deposit, .misprint, .blank], v.BalancesFit := by
    have isOk : ∀ v ∈ [Voucher.deposit, .misprint, .blank], ∀ currency ∈ v.currencies,
        (v.balanceIn? .rounding currency).isOk = true := by decide +kernel
    exact fun v hv currency hmem o => ne_error_of_isOk (isOk v hv currency hmem) o
  have deposit_bookable : Voucher.deposit.Bookable := by decide +kernel
  have misprint_not : ¬ Voucher.misprint.Bookable := by decide +kernel
  have not_all : ¬ ∀ v ∈ [Voucher.deposit, .misprint, .blank], v.Bookable := fun h =>
    misprint_not (h _ (by simp))
  have misprint_findings : Voucher.misprint.findings = .ok [⟨.accountDigits 0 999, none, none⟩,
      ⟨.blankCurrency 0, none, none⟩, ⟨.subaccountDigits 1 100, none, none⟩,
      ⟨.missingAmount 1 6602, none, none⟩, ⟨.unbalanced " " .minusOne, none, none⟩] := by decide +kernel
  obtain ⟨accepted, command, rejected, _⟩ := checks_agree (.numbered "new-") fits
  refine ⟨fits, ?_, fun h => not_all ((accepted.out 0 2).1 h), ?_⟩
  · obtain ⟨earlier, v, later, found, hvs, bookable, hv, inspected, herror⟩ := rejected not_all
    rw [herror]
    -- the rejected voucher is neither the deposit nor the blank one behind it
    rcases earlier with _ | ⟨first, _ | ⟨second, earlier⟩⟩
    · cases hvs
      exact absurd deposit_bookable hv
    · cases hvs
      cases misprint_findings.symm.trans inspected.findings_eq
      rfl
    · obtain ⟨-, rfl, -⟩ : Voucher.deposit = first ∧ Voucher.misprint = second ∧ _ := by
        simpa using hvs
      exact absurd (bookable _ (by simp)) misprint_not
  · obtain ⟨output, hrun, hexit⟩ := command ⟨"ledger.json", false, false, true⟩ _ "0ms" load_mistakes
    exact ⟨output, hrun, fun hzero => not_all (hexit.1 hzero)⟩

end Daybook
