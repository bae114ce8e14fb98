import Daybook.Files
import Daybook.Proofs.Json.Record
import Daybook.Proofs.Report.OwnCurrency

/-!
# Currencies of loaded ledgers

The options of a ledger have a base currency, but the vouchers are read without a look at the options: an entry
that names no currency gets the constant one. So the base currency is what amounts default to exactly if it is
that constant, or if no default is needed (`DefaultsTo.iff`). Where it is, reports on a ledger without any named
currency need no rates (`load_currencies`).
-/

namespace Daybook

variable {files : FileReader} {optionsPath ledgerPath : String} {loaded : Loaded}

/-! ### Loading -/

lemma readFile_eq_ok {α : Type} [FromJson α] {path : String} {a : α} :
    readFile files path = .ok a ↔ ∃ text, files path = .ok text ∧ readDocument? text = some a := by
  unfold readFile
  cases files path with
  | error reason => simp
  | ok text =>
    dsimp only
    cases hread : readDocument? (α := α) text <;> simp [hread]

/-- A ledger is loaded if both files are documents of their kind and the templates are accepted. -/
lemma load_eq_ok : load files optionsPath ledgerPath = .ok loaded ↔
    readFile files optionsPath = .ok loaded.options ∧
      loaded.options.templateTable = .ok loaded.templates ∧
      readFile files ledgerPath = .ok loaded.vouchers ∧
      loaded.rates = loaded.options.priceTable := by
  obtain ⟨options, templates, rates, vouchers⟩ := loaded
  unfold load loadOptions loadVouchers
  cases (readFile files optionsPath : Except LoadError Options) with
  | error e => simp
  | ok options' =>
    rw [ok_bind]
    -- the files are read in order, and the first step that fails decides
    cases htable : options'.templateTable with
    | error cause =>
      simp only [error_bind, reduceCtorEq, Except.ok.injEq, false_iff, not_and]
      rintro rfl
      simp [htable]
    | ok templates' =>
      simp only [ok_bind]
      cases (readFile files ledgerPath : Except LoadError (List Voucher)) with
      | error e => simp
      | ok vouchers' =>
        simp only [ok_bind, pure_eq_ok, Except.ok.injEq, Loaded.mk.injEq]
        constructor
        · rintro ⟨rfl, rfl, rfl, rfl⟩
          exact ⟨rfl, htable, rfl, rfl⟩
        · rintro ⟨rfl, htable', rfl, rfl⟩
          rw [htable, Except.ok.injEq] at htable'
          exact ⟨rfl, htable', rfl, rfl⟩

/-! ### Currencies that documents name -/

/-- The currency that the document of an entry names. -/
def Entry.namedCurrency? (d : Json) : Option String :=
  (Record.of? Entry.fieldNames d).bind fun r => (r.get? "currency").bind fromJson?

/-- The documents of the entries in the document of a voucher. -/
def Voucher.entryDocuments (d : Json) : List Json :=
  match (Record.of? Voucher.fieldNames d).bind (·.get? "details") with
  | some (.arr ds) => ds
  | _              => []

/-- The entries of the vouchers have the currencies that their documents name, or else the given one. -/
def DefaultsTo (currency : String) (documents : List Json) (vs : List Voucher) : Prop :=
  vs.map (fun v => v.entries.map (·.currency)) = documents.map fun d =>
    (Voucher.entryDocuments d).map fun d => (Entry.namedCurrency? d).getD currency

/-- No entry in the documents of vouchers names a currency. -/
def NoCurrencyNamed (documents : List Json) : Prop :=
  ∀ d ∈ documents, ∀ entry ∈ Voucher.entryDocuments d, Entry.namedCurrency? entry = none

lemma Entry.currency_of_fromJson? {d : Json} {e : Entry} (h : fromJson? d = some e) :
    e.currency = (namedCurrency? d).getD baseCurrency := by
  simp only [FromJson.fromJson?, Option.bind_eq_bind, Option.bind_eq_some_iff, Option.some.injEq] at h
  obtain ⟨r, hr, _, _, currency, hcurrency, _, _, _, _, _, _, _, _, _, _, rfl⟩ := h
  rw [namedCurrency?, hr, Option.bind_some]
  unfold Record.withDefault at hcurrency
  split at hcurrency <;> rename_i hget
  · rw [hget, Option.bind_some, hcurrency]
    rfl
  · rw [hget]
    exact (Option.some.inj hcurrency).symm

lemma Voucher.entries_of_fromJson? {d : Json} {v : Voucher} (h : fromJson? d = some v) :
    List.Forall₂ (fun d e => fromJson? d = some e) (entryDocuments d) v.entries := by
  simp only [FromJson.fromJson?, Option.bind_eq_bind, Option.bind_eq_some_iff, Option.some.injEq] at h
  obtain ⟨r, hr, _, _, _, _, _, _, _, _, entries, hentries, rfl⟩ := h
  rw [entryDocuments, hr, Option.bind_some]
  unfold Record.withDefault at hentries
  split at hentries <;> rename_i hget
  · obtain ⟨ds, rfl, hds⟩ := exists_arr_of_fromJson? hentries
    rw [hget]
    exact hds
  · cases hentries
    rw [hget]
    exact .nil

/-- The default is the constant, wherever vouchers are read. -/
lemma defaultsTo_of_fromJson? {documents : List Json} {vs : List Voucher}
    (h : List.Forall₂ (fun d v => fromJson? d = some v) documents vs) :
    DefaultsTo baseCurrency documents vs := by
  unfold DefaultsTo
  induction h with
  | nil => rfl
  | @cons d v _ _ hv _ ih =>
    have here : v.entries.map (·.currency)
        = (Voucher.entryDocuments d).map fun d => (Entry.namedCurrency? d).getD baseCurrency := by
      have entries := Voucher.entries_of_fromJson? hv
      rw [← List.forall₂_eq_eq_eq, List.forall₂_map_left_iff, List.forall₂_map_right_iff]
      exact entries.flip.imp fun e d he => Entry.currency_of_fromJson? he
    rw [List.map_cons, List.map_cons, here, ih]

/-- Another currency is a default as well only if no entry needs one. -/
lemma DefaultsTo.iff {currency other : String} {documents : List Json} {vs : List Voucher}
    (h : DefaultsTo currency documents vs) : DefaultsTo other documents vs ↔
      other = currency ∨ ∀ d ∈ documents, ∀ entry ∈ Voucher.entryDocuments d,
        Entry.namedCurrency? entry ≠ none := by
  have same : DefaultsTo other documents vs ↔ ∀ d ∈ documents, ∀ entry ∈ Voucher.entryDocuments d,
      (Entry.namedCurrency? entry).getD currency = (Entry.namedCurrency? entry).getD other := by
    unfold DefaultsTo at h ⊢
    rw [h, List.map_inj_left]
    exact forall₂_congr fun d _ => List.map_inj_left
  rw [same]
  constructor
  · intro hsame
    -- an entry without a currency has both defaults, so they are the same
    by_contra hnot
    obtain ⟨hne, hnone⟩ := not_or.1 hnot
    push Not at hnone
    obtain ⟨d, hd, entry, hentry, hnone⟩ := hnone
    have := hsame d hd entry hentry
    rw [hnone] at this
    exact hne this.symm
  · rintro (rfl | named) d hd entry hentry
    · rfl
    · obtain ⟨code, hcode⟩ := Option.ne_none_iff_exists'.1 (named d hd entry hentry)
      rw [hcode]
      rfl

/-- Where no currency is named, all entries are in the default one. -/
lemma DefaultsTo.allIn {currency : String} {documents : List Json} {vs : List Voucher}
    (h : DefaultsTo currency documents vs) (unnamed : NoCurrencyNamed documents) :
    ∀ v ∈ vs, v.AllIn currency := by
  intro v hv e he
  have hmem := List.mem_map_of_mem (f := fun v : Voucher => v.entries.map (·.currency)) hv
  rw [show vs.map _ = _ from h] at hmem
  obtain ⟨d, hd, hcurrencies⟩ := List.mem_map.1 hmem
  have := List.mem_map_of_mem (f := (·.currency)) he
  rw [← hcurrencies] at this
  obtain ⟨entry, hentry, hcurrency⟩ := List.mem_map.1 this
  rw [unnamed d hd entry hentry] at hcurrency
  exact hcurrency.symm

/-! ### Reports on what was loaded -/

/-- Entries that name no currency are loaded with the constant one, whatever the options say. So the base currency
of the options is what they default to exactly if it is that constant or every entry names a currency. If it is
the constant, no reporting currency is set and no entry names a currency, then reports of sums by currency need
no rates, on the vouchers and on a ledger made of them. -/
theorem load_currencies (h : load files optionsPath ledgerPath = .ok loaded) :
    ∃ text documents, files ledgerPath = .ok text ∧ Json.parse? text = some (.arr documents) ∧
      DefaultsTo baseCurrency documents loaded.vouchers ∧
      (DefaultsTo loaded.options.baseCurrency documents loaded.vouchers ↔
        loaded.options.baseCurrency = baseCurrency ∨ ∀ d ∈ documents,
          ∀ entry ∈ Voucher.entryDocuments d, Entry.namedCurrency? entry ≠ none) ∧
      (loaded.options.baseCurrency = baseCurrency → loaded.options.reportingCurrency? = none →
        NoCurrencyNamed documents →
        TakenOverIn loaded.options.reportingCurrency (fun A => subtotal A (loaded.vouchers.map .ok)) ∧
        ∀ newIds l, Ledger.ofVouchers newIds loaded.vouchers = .ok l →
          TakenOverIn loaded.options.reportingCurrency fun A => report A l.source) := by
  obtain ⟨_, _, hvouchers, _⟩ := load_eq_ok.1 h
  obtain ⟨text, htext, hdocument⟩ := readFile_eq_ok.1 hvouchers
  obtain ⟨document, hparse, hread⟩ := Option.bind_eq_some_iff.1 hdocument
  obtain ⟨documents, rfl, hdocuments⟩ := exists_arr_of_fromJson? hread
  have defaults := defaultsTo_of_fromJson? hdocuments
  refine ⟨text, documents, htext, hparse, defaults, defaults.iff, fun hbase hreporting unnamed => ?_⟩
  -- with the constant as base, everything is in the reporting currency already
  have own : ∀ v ∈ loaded.vouchers, v.AllIn loaded.options.reportingCurrency := by
    rw [Options.reportingCurrency, hreporting, Option.getD_none, hbase]
    exact defaults.allIn unnamed
  exact ⟨takenOverIn_of_allIn own, fun _ _ hl => Ledger.takenOverIn_of_allIn own hl⟩

/-! ### Two files -/

/-- Options and a ledger under their usual names. -/
def twoFiles (options ledger : String) : FileReader :=
  fun path => if path = "options.json" then .ok options else .ok ledger

/-- A ledger of one voucher with an entry that names no currency. -/
def oneEntryText : String := "[\x7b\"details\": [\x7b\"title\": 1001, \"fund\": \"1\"\x7d]\x7d]"

/-- The document of the voucher. -/
def oneEntryDocument : Json :=
  .obj [("details", .arr [.obj [("title", .int 1001), ("fund", .str "1")]])]

/-- What it is read as. -/
def oneEntry : Voucher := ⟨none, none, .ordinary, none, [.plain 1001 (some .one)]⟩

set_option maxRecDepth 20000 in
lemma parse?_oneEntryText : Json.parse? oneEntryText = some (.arr [oneEntryDocument]) := by
  cbv

lemma noCurrencyNamed_oneEntry : NoCurrencyNamed [oneEntryDocument] := by
  intro d hd entry hentry
  obtain rfl := List.mem_singleton.1 hd
  obtain rfl := List.mem_singleton.1 hentry
  rfl

/-- The ledger is loaded with all options that set no templates. -/
lemma load_oneEntry {text : String} {options : Options} (hoptions : readDocument? text = some options)
    (bare : options.templates = []) :
    load (twoFiles text oneEntryText) "options.json" "ledger.json"
      = .ok ⟨options, ⟨[]⟩, options.priceTable, [oneEntry]⟩ := by
  refine load_eq_ok.2 ⟨readFile_eq_ok.2 ⟨text, rfl, hoptions⟩, ?_, ?_, rfl⟩
  · rw [Options.templateTable, bare]
    cbv
  · refine readFile_eq_ok.2 ⟨oneEntryText, rfl, ?_⟩
    rw [readDocument?, parse?_oneEntryText, Option.bind_some]
    rfl

/-- A dollar base is not looked at: the entry is in yuan. -/
theorem dollarBase_ignored : ∃ loaded documents,
    load (twoFiles "\x7b\"base_currency\": \"USD\"\x7d" oneEntryText) "options.json" "ledger.json"
      = .ok loaded ∧
    Json.parse? oneEntryText = some (.arr documents) ∧ NoCurrencyNamed documents ∧
    loaded.options.baseCurrency = "USD" ∧ loaded.vouchers = [oneEntry] ∧
    ¬ DefaultsTo loaded.options.baseCurrency documents loaded.vouchers := by
  have hoptions : readDocument? "\x7b\"base_currency\": \"USD\"\x7d"
      = some { Options.default with baseCurrency := "USD" } := by
    have hparse : Json.parse? "\x7b\"base_currency\": \"USD\"\x7d"
        = some (.obj [("base_currency", .str "USD")]) := by cbv
    rw [readDocument?, hparse, Option.bind_some]
    rfl
  refine ⟨_, _, load_oneEntry hoptions rfl, parse?_oneEntryText, noCurrencyNamed_oneEntry, rfl, rfl, ?_⟩
  intro h
  exact absurd (show [["CNY"]] = [["USD"]] from h) (by decide)

/-- With options that set nothing, the entry is in the base currency, and the report by currency does not ask for
rates. -/
theorem oneEntry_takesOver : ∃ loaded documents,
    load (twoFiles "\x7b\x7d" oneEntryText) "options.json" "ledger.json" = .ok loaded ∧
    Json.parse? oneEntryText = some (.arr documents) ∧
    DefaultsTo loaded.options.baseCurrency documents loaded.vouchers ∧
    ∃ s c, subtotal .rounding (loaded.vouchers.map .ok) (.ofTree .all)
        ⟨[.currency], .sum, none, .firstSeen, false⟩ = .ok s ∧
      consolidate .rounding s ⟨loaded.options.reportingCurrency, .unavailable "offline", .january30⟩
        = .ok c ∧ c.TakesOver s := by
  have hoptions : readDocument? "\x7b\x7d" = some Options.default := by
    have hparse : Json.parse? "\x7b\x7d" = some (.obj []) := by cbv
    rw [readDocument?, hparse, Option.bind_some]
    rfl
  have hload := load_oneEntry hoptions rfl
  obtain ⟨text, documents, htext, hparse, _, hdefaults, reports⟩ := load_currencies hload
  obtain rfl : oneEntryText = text := Except.ok.inj htext
  have hdocuments := hparse
  rw [parse?_oneEntryText, Option.some.injEq, Json.arr.injEq] at hdocuments
  subst hdocuments
  refine ⟨_, _, hload, hparse, hdefaults.2 (.inl rfl), ?_⟩
  refine (reports rfl rfl noCurrencyNamed_oneEntry).1 (.ofTree .all)
    ⟨[.currency], .sum, none, .firstSeen, false⟩ (.unavailable "offline") .january30 rfl (by decide) ?_
  exact fun o => ne_error_of_isOk (by decide +kernel) _

end Daybook
