import Daybook.Proofs.Report.Missing

/-!
# Reports in one currency

What a consolidation is to do can be said path by path. The keys on the way to a group give it a position
(`Position.ofPath`): its deepest currency, and the last day of its deepest period. An undivided group is
converted by the rate of its position (`Plan.Converts`), a divided one adds up its parts
(`Group.AddsUp`), and the look-ups that fail are listed in the order of the tree (`Plan.failure?`).
`consolidate_follows` says that a consolidation does this, and nothing else, to every report of amounts with
a level of currencies.
-/

namespace Daybook

/-! ### Undivided and divided groups -/

namespace Group

variable {path : List GroupKey} {g d : Group}

lemma leavesOfAll_eq (gs : List Group) : leavesOfAll gs = gs.flatMap leaves := by
  induction gs with
  | nil => rfl
  | cons g gs ih => rw [leavesOfAll, ih, List.flatMap_cons]

lemma leaves_of_undivided (h : g.children = []) : g.leaves = [([g.key], g)] := by
  obtain ⟨key, total, converted?, children, entries, series?⟩ := g
  obtain rfl : children = [] := h
  rw [leaves, if_pos List.isEmpty_nil]
  rfl

lemma leaves_of_divided (h : g.children ≠ []) :
    g.leaves = (g.children.flatMap leaves).map fun (path, leaf) => (g.key :: path, leaf) := by
  obtain ⟨key, total, converted?, children, entries, series?⟩ := g
  have divided : ¬ children.isEmpty = true := by simpa [Group.children] using h
  rw [leaves, if_neg divided, leavesOfAll_eq]
  rfl

/-- The undivided groups are those that are reached, each with the keys from the group's own one on. -/
theorem mem_leaves {g d : Group} {path : List GroupKey} :
    (path, d) ∈ g.leaves ↔ ∃ rest, path = g.key :: rest ∧ g.Reaches rest d ∧ d.children = [] := by
  obtain ⟨key, total, converted?, children, entries, series?⟩ := g
  by_cases undivided : children = []
  · -- an undivided group is its own only leaf, and nothing else is reached from it
    subst undivided
    rw [leaves_of_undivided rfl, List.mem_singleton, Prod.mk.injEq]
    constructor
    · rintro ⟨rfl, rfl⟩
      exact ⟨[], rfl, .here _, rfl⟩
    · rintro ⟨rest, rfl, hd, _⟩
      obtain rfl := hd.eq_nil rfl
      exact ⟨rfl, reaches_nil.1 hd⟩
  · -- a leaf of a divided group is a leaf of one of its parts
    rw [leaves_of_divided (show (mk ..).children ≠ [] from undivided)]
    simp only [List.mem_map, List.mem_flatMap, Prod.exists, Prod.mk.injEq]
    constructor
    · rintro ⟨_, _, ⟨c, hc, hd⟩, rfl, rfl⟩
      obtain ⟨rest, rfl, hd, hleaf⟩ := mem_leaves.1 hd
      exact ⟨c.key :: rest, rfl, .part hc hd, hleaf⟩
    · rintro ⟨rest, rfl, hd, hleaf⟩
      cases hd with
      | here => exact absurd hleaf undivided
      | part hc hd => exact ⟨_, d, ⟨_, hc, mem_leaves.2 ⟨_, rfl, hd, hleaf⟩⟩, rfl, rfl⟩

lemma exists_of_mem_paths (h : path ∈ g.leaves.map (·.1)) : ∃ rest, path = g.key :: rest := by
  obtain ⟨⟨_, d⟩, hd, rfl⟩ := List.mem_map.1 h
  obtain ⟨rest, hrest, _⟩ := mem_leaves.1 hd
  exact ⟨rest, hrest⟩

/-- Where siblings differ, the undivided groups have different paths. -/
theorem nodup_leaves : ∀ {g : Group}, g.SiblingsDiffer → (g.leaves.map (·.1)).Nodup
  | .mk key total converted? children entries series?, differ => by
    by_cases undivided : children = []
    · subst undivided
      rw [leaves_of_undivided rfl]
      exact List.nodup_singleton _
    · -- two leaves of different parts differ in the first key below the group
      have inner : (children.flatMap fun c => c.leaves.map (·.1)).Nodup := by
        refine List.nodup_flatMap.2 ⟨fun c hc => nodup_leaves (differ.part hc), ?_⟩
        refine (List.pairwise_map.1 (differ [] _ (.here _))).imp fun {b c} hne => ?_
        intro path hb hc
        obtain ⟨_, rfl⟩ := exists_of_mem_paths hb
        obtain ⟨_, hpath⟩ := exists_of_mem_paths hc
        exact hne (List.cons.inj hpath).1
      have paths : (children.flatMap leaves).map (·.1)
          = children.flatMap fun c => c.leaves.map (·.1) := List.map_flatMap
      have outer := (paths ▸ inner).map (List.cons_injective (a := key))
      rw [leaves_of_divided (show (mk ..).children ≠ [] from undivided), List.map_map]
      rwa [List.map_map] at outer

/-- The converted total of a divided group is the sum of those of its parts, and missing if one of them
is. -/
def AddsUp (A : Arithmetic) (g : Group) : Prop :=
  ((∃ c ∈ g.children, c.converted? = none) ∧ g.converted? = none) ∨
  ∃ (ts : List Decimal) (t : Decimal), g.children.map converted? = ts.map some ∧
    A.sum ts = .ok t ∧ g.converted? = some t

end Group

namespace Consolidation

variable {A : Arithmetic} {plan : Plan} {p : Position} {levels : List Level} {g g' d : Group}
  {gs : List Group} {missing : List Unconverted} {path : List GroupKey} {code : String}
  {total : Decimal} {t? : Option Decimal} {level? : Option Level} {key : GroupKey}

/-! ### Positions along paths -/

/-- The code of a key of a currency. -/
def code? : GroupKey → Option String
  | .currency code => some code
  | _              => none

/-- The period and the first day of a key of dates at a level. -/
def dated? : Level × GroupKey → Option (Option Period × Option Date)
  | (level, .date first?) => some (level.period?, first?)
  | _                     => none

/-- The last day of a period of dates; there is none for undated groups. -/
def lastDay? : Option Period × Option Date → Option Date
  | (some period, some first) => some (period.endOf first)
  | _                         => none

/-- What the keys on a path along levels say, read off the path as a whole: the deepest currency, and the
last day of the deepest date. -/
def Position.ofPath (levels : List Level) (path : List GroupKey) : Position where
  path := path
  currency? := (path.filterMap code?).getLast?
  date? := ((levels.zip path).filterMap dated?).getLast?.bind lastDay?

/-- The position at the end of a path, key by key. -/
def Position.along (p : Position) : List Level → List GroupKey → Position
  | _,      []          => p
  | levels, key :: path => (p.enter levels.head? key).along levels.tail path

lemma getLast?_filterMap_cons {α β : Type} (f : α → Option β) (a : α) (as : List α) :
    ((a :: as).filterMap f).getLast? = ((as.filterMap f).getLast?).or (f a) := by
  rw [List.filterMap_cons]
  cases f a with
  | none => simp
  | some b => cases h : (as.filterMap f).getLast? <;> simp [List.getLast?_cons, h]

lemma Position.enter_eq (p : Position) (l : Level) (key : GroupKey) :
    p.enter (some l) key = ⟨p.path ++ [key], (code? key).or p.currency?,
      ((dated? (l, key)).map lastDay?).getD p.date?⟩ := by
  cases key with
  | date first? => cases hl : l.period? <;> cases first? <;> simp [enter, code?, dated?, lastDay?, hl]
  | root | currency | account | subaccount | content | remark | owner | kind => rfl

/-- Going along a path, later keys replace what earlier ones say. -/
lemma Position.along_eq (p : Position) (h : path.length ≤ levels.length) :
    p.along levels path = ⟨p.path ++ path, (path.filterMap code?).getLast?.or p.currency?,
      (((levels.zip path).filterMap dated?).getLast?.map lastDay?).getD p.date?⟩ := by
  induction path generalizing p levels with
  | nil => simp [along]
  | cons key path ih =>
    -- the rest of the path has the last word; only what it leaves open is taken from `key`
    cases levels with
    | nil => cases h
    | cons l levels =>
      rw [along, List.head?_cons, List.tail_cons, ih _ (Nat.le_of_succ_le_succ h), enter_eq,
        List.zip_cons_cons, getLast?_filterMap_cons, getLast?_filterMap_cons]
      cases ((levels.zip path).filterMap dated?).getLast? <;> simp [Option.or_assoc]

lemma Position.along_root (h : path.length ≤ levels.length) :
    Position.root.along levels path = .ofPath levels path := by
  rw [along_eq _ h, ofPath]
  cases ((levels.zip path).filterMap dated?).getLast? <;> simp [root]

/-! ### Rates -/

/-- The day whose rates count at a position. -/
def Plan.rateDay (plan : Plan) (p : Position) : Date := p.date?.getD plan.asOf

/-- A total in a currency is converted: it stays in the reporting currency, is multiplied by the rate of
the day in another one, and is missing without a rate. -/
def Plan.Converts (plan : Plan) (A : Arithmetic) (code : String) (day : Date) (total : Decimal)
    (t? : Option Decimal) : Prop :=
  if code = plan.currency then t? = some total
  else match plan.rates day code plan.currency with
    | .ok rate => ∃ t, A.mul total rate = .ok t ∧ t? = some t
    | .error _ => t? = none

/-- The look-up of the rate at a position, if it is made and fails. -/
def Plan.failure? (plan : Plan) (p : Position) : Option Unconverted :=
  match p.currency? with
  | none      => none
  | some code =>
    if code = plan.currency then none
    else match plan.rates (plan.rateDay p) code plan.currency with
      | .error (.error cause) => some ⟨p.path, code, plan.rateDay p, cause⟩
      | _                     => none

lemma path_of_failure? {u : Unconverted} (h : plan.failure? p = some u) : u.path = p.path := by
  unfold Plan.failure? at h
  split at h
  · cases h
  · split at h
    · cases h
    · split at h
      · cases h
        rfl
      · cases h

/-- An undivided group is converted by the rate at its position, or listed. -/
lemma convertTotal_eq_ok (h : convertTotal A plan p total = .ok (t?, missing)) :
    missing = (plan.failure? p).toList ∧
      ∀ code, p.currency? = some code → plan.Converts A code (plan.rateDay p) total t? := by
  unfold convertTotal at h
  cases hcode : p.currency? with
  | none =>
    -- without a currency nothing is looked up, so nothing can be missing
    simp only [hcode, Except.ok.injEq, Prod.mk.injEq] at h
    simp [Plan.failure?, hcode, h.2]
  | some code =>
    simp only [hcode] at h
    by_cases hown : code = plan.currency
    · -- its own currency: the total is kept
      rw [if_pos hown] at h
      cases h
      simp [Plan.failure?, Plan.Converts, hcode, hown]
    · -- another currency: by the outcome of the look-up
      rw [if_neg hown] at h
      cases hrate : plan.rates (p.date?.getD plan.asOf) code plan.currency with
      | ok rate =>
        simp only [hrate] at h
        obtain ⟨t, ht, h⟩ := bind_eq_ok.1 h
        cases h
        simp [Plan.failure?, Plan.Converts, Plan.rateDay, hcode, hown, hrate, ht]
      | error e =>
        cases e with
        | overflow o => simp [hrate] at h
        | error cause =>
          simp only [hrate] at h
          cases h
          simp [Plan.failure?, Plan.Converts, Plan.rateDay, hcode, hown, hrate]

/-! ### Sums of parts -/

/-- The totals of converted parts are added up from left to right, on top of a sum. -/
lemma sum?_of_convertAll {sum? : Option Decimal} {r : Converted}
    (h : convertAll A plan p levels sum? gs = .ok r) :
    ((sum? = none ∨ ∃ c ∈ r.groups, c.converted? = none) ∧ r.sum? = none) ∨
    ∃ (a : Decimal) (ts : List Decimal) (t : Decimal), sum? = some a ∧ r.groups.map Group.converted? = ts.map some ∧
      ts.foldlM A.add a = .ok t ∧ r.sum? = some t := by
  induction gs generalizing sum? r with
  | nil =>
    rw [convertAll] at h
    cases h
    cases sum? with
    | none => exact .inl ⟨.inl rfl, rfl⟩
    | some a => exact .inr ⟨a, [], a, rfl, rfl, rfl, rfl⟩
  | cons g gs ih =>
    rw [convertAll] at h
    obtain ⟨⟨g', missing⟩, hg, h⟩ := bind_eq_ok.1 h
    obtain ⟨next?, hnext, h⟩ := bind_eq_ok.1 h
    obtain ⟨rest, hrest, h⟩ := bind_eq_ok.1 h
    cases h
    rcases ih hrest with ⟨hnone, hsum⟩ | ⟨b, ts, t, rfl, hts, ht, hsum⟩
    · refine .inl ⟨?_, hsum⟩
      rw [addTotals_eq_none hnext, or_assoc] at hnone
      rwa [List.exists_mem_cons_iff]
    · cases sum? with
      | none => cases hnext
      | some a =>
        cases hx : g'.converted? with
        | none =>
          rw [hx] at hnext
          cases hnext
        | some x =>
          simp only [hx, addTotals, bind_eq_ok, pure_eq_ok, Except.ok.injEq] at hnext
          obtain ⟨b', hb, hb'⟩ := hnext
          cases hb'
          refine .inr ⟨a, x :: ts, t, rfl, by simp [hx, hts], ?_, hsum⟩
          rw [List.foldlM_cons, hb, ok_bind, ht]

lemma addsUp_of_convert (h : convert A plan p levels g = .ok (g', missing))
    (divided : g.children ≠ []) : g'.AddsUp A := by
  obtain ⟨key, total, converted?, children, entries, series?⟩ := g
  rw [convert, if_neg (by simpa [Group.children] using divided)] at h
  obtain ⟨r, hr, h⟩ := bind_eq_ok.1 h
  cases h
  rcases sum?_of_convertAll hr with ⟨hnone, hsum⟩ | ⟨_, ts, t, hzero, hts, ht, hsum⟩
  · exact .inl ⟨by simpa [Group.children] using hnone, hsum⟩
  · cases hzero
    exact .inr ⟨ts, t, hts, ht, hsum⟩

/-! ### Whole trees -/

/-- How a group at a position is converted, and what is listed with it. -/
structure Turns (A : Arithmetic) (plan : Plan) (p : Position) (levels : List Level) (g g' : Group)
    (missing : List Unconverted) : Prop where
  leaf : ∀ path d, g'.Reaches path d → d.children = [] → ∀ code,
    (p.along levels path).currency? = some code →
      plan.Converts A code (plan.rateDay (p.along levels path)) d.total d.converted?
  inner : ∀ path d, g'.Reaches path d → d.children ≠ [] → d.AddsUp A
  missing_eq : missing = g.leaves.filterMap fun (path, _) =>
    plan.failure? (p.along levels path.tail)

lemma Turns.of_leaf {converted? : Option Decimal} {entries : List EntryRef}
    {series? : Option DaySeries} (h : convertTotal A plan p total = .ok (t?, missing)) :
    Turns A plan p levels (.mk key total converted? [] entries series?)
      (.mk key total t? [] entries series?) missing := by
  obtain ⟨hmissing, hconverts⟩ := convertTotal_eq_ok h
  refine ⟨?leaf, ?inner, ?missing_eq⟩
  case leaf =>
    intro path d hd _
    obtain rfl := hd.eq_nil rfl
    obtain rfl := Group.reaches_nil.1 hd
    exact hconverts
  case inner =>
    intro path d hd divided
    obtain rfl := hd.eq_nil rfl
    obtain rfl := Group.reaches_nil.1 hd
    exact absurd rfl divided
  case missing_eq =>
    rw [hmissing, Group.leaves_of_undivided rfl, List.filterMap_cons, List.filterMap_nil]
    show (plan.failure? p).toList = _
    cases h : plan.failure? p <;> simp [Position.along, h]

lemma Turns.of_parts {parts : List (Group × List Unconverted)} {converted? : Option Decimal}
    {entries : List EntryRef} {series? : Option DaySeries} (hne : gs ≠ [])
    (hparts : List.Forall₂ (fun c part =>
      Turns A plan (p.enter levels.head? c.key) levels.tail c part.1 part.2 ∧
        part.1.key = c.key) gs parts)
    (adds : (Group.mk key total t? (parts.map (·.1)) entries series?).AddsUp A) :
    Turns A plan p levels (.mk key total converted? gs entries series?)
      (.mk key total t? (parts.map (·.1)) entries series?) (parts.map (·.2)).flatten := by
  have divided : parts ≠ [] := by
    rintro rfl
    exact hne (List.forall₂_nil_right_iff.1 hparts)
  refine ⟨?leaf, ?inner, ?missing_eq⟩
  case leaf =>
    -- the group has parts, so a leaf lies below one of them, one key further along
    intro path d hd undivided
    cases hd with
    | here => exact absurd (List.map_eq_nil_iff.1 undivided) divided
    | part hc hd =>
      obtain ⟨part, hpart, rfl⟩ := List.mem_map.1 hc
      obtain ⟨c, _, turns, hkey⟩ := exists_of_mem_forall₂ hparts hpart
      rw [Position.along, hkey]
      exact turns.leaf _ d hd undivided
  case inner =>
    intro path d hd hdivided
    cases hd with
    | here => exact adds
    | part hc hd =>
      obtain ⟨part, hpart, rfl⟩ := List.mem_map.1 hc
      obtain ⟨c, _, turns, _⟩ := exists_of_mem_forall₂ hparts hpart
      exact turns.inner _ d hd hdivided
  case missing_eq =>
    -- each part lists its own failures, at positions that go through the key of the part
    rw [Group.leaves_of_divided (show (Group.mk ..).children ≠ [] from hne), List.filterMap_map]
    show _ = (gs.flatMap Group.leaves).filterMap _
    clear adds divided hne
    induction hparts with
    | nil => rfl
    | @cons c part gs parts h _ ih =>
      rw [List.map_cons, List.flatten_cons, ih, List.flatMap_cons, List.filterMap_append,
        h.1.missing_eq]
      congr 1
      refine List.filterMap_congr fun x hx => ?_
      obtain ⟨path, d⟩ := x
      obtain ⟨rest, rfl, _⟩ := Group.mem_leaves.1 hx
      rfl

mutual

theorem turns_of_convert {p : Position} {levels : List Level} :
    ∀ {g g' missing}, convert A plan p levels g = .ok (g', missing) →
      Turns A plan p levels g g' missing
  | .mk key total converted? children entries series?, g', missing, h => by
    by_cases hne : children = []
    · subst hne
      obtain ⟨_, ht, rfl⟩ := convert_leaf h
      exact .of_leaf ht
    · have adds := addsUp_of_convert h hne
      obtain ⟨t?, parts, hparts, rfl, rfl, _⟩ := convert_node hne h
      exact .of_parts hne (turnsAll_of_convert hparts) adds

theorem turnsAll_of_convert {p : Position} {levels : List Level} :
    ∀ {gs} {parts : List (Group × List Unconverted)},
      List.Forall₂ (fun g part =>
        convert A plan (p.enter levels.head? g.key) levels.tail g = .ok part) gs parts →
      List.Forall₂ (fun g part =>
        Turns A plan (p.enter levels.head? g.key) levels.tail g part.1 part.2 ∧
          part.1.key = g.key) gs parts
  | [], _, h => by
    cases h
    exact .nil
  | g :: gs, _, h => by
    obtain _ | ⟨hg, hgs⟩ := h
    exact .cons ⟨turns_of_convert hg, key_of_convert hg⟩ (turnsAll_of_convert hgs)

end

/-! ### Currencies on paths -/

/-- Among the keys of an entry there is one currency. -/
lemma currency_mem_keys_iff (hcur : .currency ∈ levels) {e : Entry} {v : Voucher} :
    .currency code ∈ levels.map (·.key e v) ↔ code = e.currency := by
  constructor
  · intro h
    obtain ⟨l, _, hl⟩ := List.mem_map.1 h
    cases l with
    | currency => exact (GroupKey.currency.inj hl).symm
    | account | subaccount | content | remark | owner | kind | period => cases hl
  · rintro rfl
    exact List.mem_map_of_mem (f := (Level.key · e v)) hcur

/-- The only currency on a path is its deepest one. -/
lemma Position.currency?_ofPath (h : ∀ other, .currency other ∈ path ↔ other = code) :
    (ofPath levels path).currency? = some code := by
  have mem_codes : ∀ other, other ∈ path.filterMap code? ↔ other = code := by
    intro other
    rw [← h, List.mem_filterMap]
    constructor
    · rintro ⟨key, hkey, hcode⟩
      cases key with
      | currency => exact Option.some.inj hcode ▸ hkey
      | root | account | subaccount | content | remark | owner | kind | date => cases hcode
    · exact fun hmem => ⟨_, hmem, rfl⟩
  cases hlast : (path.filterMap code?).getLast? with
  | none =>
    rw [List.getLast?_eq_none_iff] at hlast
    simp [hlast] at mem_codes
  | some other => rw [ofPath, hlast, (mem_codes other).1 (List.mem_of_getLast? hlast)]

end Consolidation

/-! ### Consolidated reports -/

open Consolidation

/-- A report in one currency that was made from a report as it should be. -/
structure Consolidated.Follows (c : Consolidated) (A : Arithmetic) (plan : Plan) (s : Subtotal) :
    Prop where
  /-- Without the converted totals it is the report itself. -/
  subtotal_eq : { c.subtotal with root := c.subtotal.root.withoutConverted } = s
  currency_eq : c.currency = plan.currency
  grandTotal_eq : c.grandTotal? = c.subtotal.root.converted?
  /-- An undivided group below the root is converted from the currency on its path. -/
  leaf : ∀ path g, c.subtotal.root.Reaches path g → path ≠ [] → g.children = [] →
    ∃ code, (∀ other, .currency other ∈ path ↔ other = code) ∧
      plan.Converts A code (plan.rateDay (.ofPath s.levels path)) g.total g.converted?
  inner : ∀ path g, c.subtotal.root.Reaches path g → g.children ≠ [] → g.AddsUp A
  /-- What is listed are the failures of the undivided groups, depth first. -/
  unconverted_eq : c.unconverted = s.root.leaves.filterMap fun (path, _) =>
    plan.failure? (.ofPath s.levels path.tail)
  listed : ∀ u, u ∈ c.unconverted ↔ ∃ g, c.subtotal.root.Reaches u.path g ∧ g.children = [] ∧
    plan.failure? (.ofPath s.levels u.path) = some u
  once : (c.unconverted.map (·.path)).Nodup

variable {stream : VoucherStream} {query : ResolvedQuery} {spec : ReportSpec} {s : Subtotal}
  {A : Arithmetic} {days? : Option (Date × Date)} {order : GroupOrder} {levels : List Level}
  {ps : List Posting} {g g' : Group} {missing : List Unconverted} {plan : Plan}

namespace Group

/-- A conversion does not change what is reached. -/
lemma reaches_iff_of_convert {path : List GroupKey} {d : Group}
    (h : Reports A days? order levels.length ps g)
    (hc : convert A plan .root levels g = .ok (g', missing)) :
    g.Reaches path d ↔ ∃ e, g'.Reaches path e ∧ d = e.withoutConverted := by
  rw [← reaches_withoutConverted, withoutConverted_of_convert hc, h.withoutConverted_eq]

/-- What is listed with a converted report goes by the paths of its undivided groups. -/
lemma missing_of_convert (h : Reports A days? order levels.length ps g)
    (hc : convert A plan .root levels g = .ok (g', missing)) :
    missing = g.leaves.filterMap fun (path, _) => plan.failure? (.ofPath levels path.tail) := by
  rw [(turns_of_convert hc).missing_eq]
  refine List.filterMap_congr fun x hx => ?_
  obtain ⟨path, d⟩ := x
  obtain ⟨rest, rfl, hd, _⟩ := mem_leaves.1 hx
  obtain ⟨m, hm, _⟩ := h.reaches hd
  exact congrArg plan.failure? (Position.along_root (by rw [List.tail_cons]; omega))

/-- What is listed are the undivided groups whose rates are missing. -/
lemma mem_missing_iff_of_convert (h : Reports A days? order levels.length ps g)
    (hc : convert A plan .root levels g = .ok (g', missing)) {u : Unconverted} :
    u ∈ missing ↔ ∃ d, g'.Reaches u.path d ∧ d.children = [] ∧
      plan.failure? (.ofPath levels u.path) = some u := by
  rw [missing_of_convert h hc, List.mem_filterMap]
  constructor
  · rintro ⟨⟨path, d⟩, hmem, hu⟩
    obtain ⟨rest, rfl, hd, undivided⟩ := mem_leaves.1 hmem
    obtain ⟨e, he, rfl⟩ := (reaches_iff_of_convert h hc).1 hd
    obtain rfl : u.path = rest := path_of_failure? hu
    exact ⟨e, he, by simpa using undivided, hu⟩
  · rintro ⟨e, he, undivided, hu⟩
    have hd := (reaches_iff_of_convert h hc).2 ⟨e, he, rfl⟩
    exact ⟨(g.key :: u.path, e.withoutConverted), mem_leaves.2 ⟨_, rfl, hd, by simp [undivided]⟩, hu⟩

lemma nodup_missing_of_convert (h : Reports A days? order levels.length ps g)
    (hc : convert A plan .root levels g = .ok (g', missing)) : (missing.map (·.path)).Nodup := by
  rw [missing_of_convert h hc]
  refine List.pairwise_map.2 (List.pairwise_filterMap.2 ?_)
  refine (List.pairwise_map.1 (nodup_leaves h.siblingsDiffer)).imp_of_mem ?_
  rintro ⟨_, d⟩ ⟨_, e⟩ hd he hne u hu w hw heq
  obtain ⟨rest, rfl, _⟩ := mem_leaves.1 hd
  obtain ⟨rest', rfl, _⟩ := mem_leaves.1 he
  have hrest : rest = rest' := (path_of_failure? hu).symm.trans (heq.trans (path_of_failure? hw))
  exact hne (congrArg (g.key :: ·) hrest)

/-- An undivided group below the root has one currency on its path, and is converted from it. -/
lemma converts_of_convert (h : Reports A days? order levels.length ps g)
    (hcur : .currency ∈ levels) (keyed : ∀ q ∈ ps, ∃ e v, q.path = levels.map (·.key e v))
    (hc : convert A plan .root levels g = .ok (g', missing)) {path : List GroupKey} {d : Group}
    (hd : g'.Reaches path d) (hne : path ≠ []) (undivided : d.children = []) :
    ∃ code, (∀ other, .currency other ∈ path ↔ other = code) ∧
      plan.Converts A code (plan.rateDay (.ofPath levels path)) d.total d.converted? := by
  have full : ∀ q ∈ ps, q.path.length = levels.length := by
    intro q hq
    obtain ⟨e, v, hpath⟩ := keyed q hq
    rw [hpath, List.length_map]
  have hd' : g.Reaches path d.withoutConverted := (reaches_iff_of_convert h hc).2 ⟨d, hd, rfl⟩
  have undivided' : d.withoutConverted.children = [] := by simp [undivided]
  obtain ⟨q, hq, rfl⟩ := h.exists_path_eq full hd' undivided' (h.below_ne_nil full hd' hne)
  obtain ⟨e, v, hpath⟩ := keyed q hq
  have only : ∀ other, .currency other ∈ q.path ↔ other = e.currency := by
    intro other
    rw [hpath, currency_mem_keys_iff hcur]
  have converts := (turns_of_convert hc).leaf _ d hd undivided e.currency
  rw [Position.along_root (full q hq).le] at converts
  exact ⟨e.currency, only, converts (Position.currency?_ofPath only)⟩

end Group

/-- Every report of amounts with a level of currencies is consolidated as it should be, unless something
overflows. -/
theorem consolidate_follows (hs : subtotal .rounding stream query spec = .ok s)
    (hcur : .currency ∈ spec.levels)
    (hagg : spec.aggregation = .sum ∨ spec.aggregation = .everyDay) (plan : Plan)
    (fits : ∀ o, consolidate .rounding s plan ≠ .error (.overflow o)) :
    ∃ c, consolidate .rounding s plan = .ok c ∧ c.Follows .rounding plan s := by
  obtain ⟨days?, hdays⟩ := exists_span_of_subtotal hs
  obtain ⟨ps, g, hps, _, reports, _, rfl⟩ := reports_of_subtotal hdays hs
  have hhide : spec.aggregation ≠ .nonZero := by rcases hagg with h | h <;> simp [h]
  have hcount : spec.aggregation ≠ .count := by rcases hagg with h | h <;> simp [h]
  rw [if_neg hhide] at fits ⊢
  rw [consolidate_eq hcur hcount] at fits ⊢
  cases hconvert : convert .rounding plan .root spec.levels g with
  | error o => exact absurd (by simp [hconvert, liftOverflow]) (fits o)
  | ok r =>
    obtain ⟨root, missing⟩ := r
    have kept : root.withoutConverted = g := by
      rw [withoutConverted_of_convert hconvert, reports.withoutConverted_eq]
    have keyed := exists_keys_of_postings hps
    exact ⟨_, rfl, {
      subtotal_eq := congrArg (Subtotal.mk _ _) kept
      currency_eq := rfl
      grandTotal_eq := rfl
      leaf := fun _ _ => Group.converts_of_convert reports hcur keyed hconvert
      inner := (turns_of_convert hconvert).inner
      unconverted_eq := Group.missing_of_convert reports hconvert
      listed := fun _ => Group.mem_missing_iff_of_convert reports hconvert
      once := Group.nodup_missing_of_convert reports hconvert }⟩

/-- Amounts in yuan, with a rate on the last day of January only. -/
def januaryPlan : Plan where
  currency := "CNY"
  rates := fun day source target =>
    if some day = Date.of? 2026 1 31 then .ok .two else .error (.error (.missing source target day))
  asOf := .january2028

/-- By months, the dollars of January are converted at the end of January, and those of February are
listed: there is no rate at the end of February. -/
theorem february_dollars_unconverted : ∃ s,
    subtotal .rounding ([.exchange, .single .february1 "USD" .two].map .ok) (.ofTree .all)
      ⟨[.period .month, .currency], .sum, none, .firstSeen, false⟩ = .ok s ∧
    (∀ o, consolidate .rounding s januaryPlan ≠ .error (.overflow o)) ∧
    ∃ c, consolidate .rounding s januaryPlan = .ok c ∧ c.Follows .rounding januaryPlan s ∧
      c.unconverted.map (fun u => (u.path, u.currency, some u.date)) =
        [([.date (some .february1), .currency "USD"], "USD", Date.of? 2026 2 28)] := by
  obtain ⟨s, hs⟩ : ∃ s, subtotal .rounding ([.exchange, .single .february1 "USD" .two].map .ok)
      (.ofTree .all) ⟨[.period .month, .currency], .sum, none, .firstSeen, false⟩ = .ok s := ⟨_, rfl⟩
  have fits : ∀ o, consolidate .rounding s januaryPlan ≠ .error (.overflow o) := by
    cases hs
    rintro o ⟨⟩
  obtain ⟨c, hc, follows⟩ := consolidate_follows hs (by decide) (.inl rfl) januaryPlan fits
  refine ⟨s, hs, fits, c, hc, follows, ?_⟩
  cases hs
  cases hc
  rfl

end Daybook
