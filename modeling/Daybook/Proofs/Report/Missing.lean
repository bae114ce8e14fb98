import Daybook.Proofs.Report.Node
import Daybook.Proofs.Report.Contributions
import Daybook.Proofs.Report.Pruning
import Daybook.Proofs.Voucher.Balance

/-!
# Totals that are missing in the reporting currency

A consolidation is `Consolidated.Explained` if it lists a group without a rate for every total that it
leaves out. So it is for reports that do not hide anything. A report that hides what comes to zero may hide
all parts of a group although the group itself does not come to zero; then no currency is known for it, its
converted total is missing, and nothing is listed. `explained_iff` says that there is no other case.
-/

namespace Daybook

variable {A : Arithmetic} {query : ResolvedQuery} {spec : ReportSpec} {days? : Option (Date × Date)}
  {stream : VoucherStream} {order : GroupOrder} {levels : List Level} {ps : List Posting} {s : Subtotal}

/-- Every total that is missing is explained: the grand total by some group without a rate, the total of
any group by one at or below it. -/
structure Consolidated.Explained (c : Consolidated) : Prop where
  grandTotal : c.grandTotal? = none ↔ c.isComplete = false
  converted : ∀ path g, c.subtotal.root.Reaches path g →
    (g.converted? = none ↔ ∃ u ∈ c.unconverted, path <+: u.path)

namespace Group

variable {path : List GroupKey} {g : Group}

/-- The group is undivided, no key on the way to it is a currency, and still it does not come to zero. -/
structure Bare (path : List GroupKey) (g : Group) : Prop where
  undivided : g.children = []
  no_currency : ∀ code, .currency code ∉ path
  not_zero : g.total.isZero = false

/-- Whatever is undivided and belongs to no currency comes to zero. -/
def ZeroOutsideCurrencies (root : Group) : Prop := ∀ path g, root.Reaches path g → ¬ Bare path g

lemma bare_withoutConverted : Bare path g.withoutConverted ↔ Bare path g := by
  constructor
  · rintro ⟨undivided, no_currency, not_zero⟩
    exact ⟨by simpa using undivided, no_currency, by simpa using not_zero⟩
  · rintro ⟨undivided, no_currency, not_zero⟩
    exact ⟨by simpa using undivided, no_currency, by simpa using not_zero⟩

lemma zeroOutsideCurrencies_withoutConverted :
    g.withoutConverted.ZeroOutsideCurrencies ↔ g.ZeroOutsideCurrencies := by
  constructor
  · intro h path d hd hbare
    exact h path _ (reaches_withoutConverted.2 ⟨d, hd, rfl⟩) (bare_withoutConverted.2 hbare)
  · intro h path d hd hbare
    obtain ⟨e, he, rfl⟩ := reaches_withoutConverted.1 hd
    exact h path e he (bare_withoutConverted.1 hbare)

end Group

namespace Consolidation

variable {plan : Plan} {p : Position} {g g' : Group} {gs : List Group} {missing : List Unconverted}
  {level? : Option Level} {key : GroupKey} {total : Decimal} {t? : Option Decimal}

/-! ### Positions of parts -/

@[simp] lemma Position.path_enter : (p.enter level? key).path = p.path ++ [key] := by
  unfold enter
  split <;> rfl

/-- A key of a currency sets the currency, and no other one does. -/
lemma Position.currency?_enter_eq_none :
    (p.enter level? key).currency? = none ↔ p.currency? = none ∧ ∀ code, key ≠ .currency code := by
  unfold enter
  split <;> simp_all

/-! ### What a conversion accounts for -/

/-- How the missing totals of a converted group at a position are listed. -/
structure Accounts (p : Position) (g : Group) (missing : List Unconverted) : Prop where
  /-- What is listed is an undivided group of some currency, and its total is missing. -/
  listed : ∀ u ∈ missing, ∃ path leaf, u.path = p.path ++ path ∧ g.Reaches path leaf ∧
    leaf.children = [] ∧ leaf.converted? = none ∧
    (p.currency? = none → ∃ code, .currency code ∈ path)
  /-- The total of an undivided group is missing if the group is listed, or has no currency. -/
  leaf : ∀ path leaf, g.Reaches path leaf → leaf.children = [] → leaf.converted? = none →
    (∃ u ∈ missing, u.path = p.path ++ path) ∨ (p.currency? = none ∧ Group.Bare path leaf)
  /-- Without a currency it is missing unless it is zero. -/
  bare : p.currency? = none → ∀ path leaf, g.Reaches path leaf → Group.Bare path leaf →
    leaf.converted? = none
  /-- Any total is missing if that of an undivided group at or below it is. -/
  inner : ∀ path d, g.Reaches path d → (d.converted? = none ↔
    ∃ rest leaf, d.Reaches rest leaf ∧ leaf.children = [] ∧ leaf.converted? = none)

lemma convertTotal_accounts (h : convertTotal A plan p total = .ok (t?, missing)) :
    (∀ u ∈ missing, u.path = p.path ∧ t? = none ∧ p.currency? ≠ none) ∧
      (t? = none → missing ≠ [] ∨ p.currency? = none ∧ total.isZero = false) ∧
      (p.currency? = none → total.isZero = false → t? = none) := by
  unfold convertTotal at h
  cases hcur : p.currency? with
  | none =>
    simp only [hcur, Except.ok.injEq, Prod.mk.injEq] at h
    obtain ⟨rfl, rfl⟩ := h
    simp
  | some cur =>
    simp only [hcur] at h
    split at h
    · cases h
      simp
    · split at h
      · -- there is a rate, so there is a total
        obtain ⟨t, _, h⟩ := bind_eq_ok.1 h
        cases h
        simp
      · -- the rate is known to be missing: the group is listed
        cases h
        simp
      · cases h

/-- An undivided group accounts for its own total. -/
lemma Accounts.of_leaf {entries : List EntryRef} {series? : Option DaySeries}
    (h : convertTotal A plan p total = .ok (t?, missing)) :
    Accounts p (.mk key total t? [] entries series?) missing := by
  obtain ⟨hlisted, hmissing, hbare⟩ := convertTotal_accounts h
  have only : ∀ {path d}, (Group.mk key total t? [] entries series?).Reaches path d →
      path = [] ∧ d = .mk key total t? [] entries series? := by
    intro path d hd
    obtain rfl := hd.eq_nil rfl
    exact ⟨rfl, Group.reaches_nil.1 hd⟩
  refine ⟨?listed, ?leaf, ?bare, ?inner⟩
  case listed =>
    intro u hu
    obtain ⟨hpath, hnone, hcur⟩ := hlisted u hu
    exact ⟨[], _, by simpa using hpath, .here _, rfl, hnone, fun h => absurd h hcur⟩
  case leaf =>
    intro path leaf hleaf undivided hnone
    obtain ⟨rfl, rfl⟩ := only hleaf
    rcases hmissing hnone with hne | ⟨hcur, hzero⟩
    · obtain ⟨u, hu⟩ := List.exists_mem_of_ne_nil _ hne
      exact .inl ⟨u, hu, by simpa using (hlisted u hu).1⟩
    · exact .inr ⟨hcur, rfl, fun code => List.not_mem_nil, hzero⟩
  case bare =>
    intro hcur path leaf hleaf hb
    obtain ⟨rfl, rfl⟩ := only hleaf
    exact hbare hcur hb.not_zero
  case inner =>
    intro path d hd
    obtain ⟨rfl, rfl⟩ := only hd
    constructor
    · exact fun hnone => ⟨[], _, .here _, rfl, hnone⟩
    · rintro ⟨rest, leaf, hleaf, _, hnone⟩
      obtain ⟨rfl, rfl⟩ := only hleaf
      exact hnone

/-- A divided group accounts for what its parts account for. -/
lemma Accounts.of_parts {parts : List (Group × List Unconverted)} {entries : List EntryRef}
    {series? : Option DaySeries} (hne : parts ≠ [])
    (hparts : ∀ part ∈ parts, Accounts (p.enter level? part.1.key) part.1 part.2)
    (hsum : t? = none ↔ ∃ part ∈ parts, part.1.converted? = none) :
    Accounts p (.mk key total t? (parts.map (·.1)) entries series?) (parts.map (·.2)).flatten := by
  have divided : (Group.mk key total t? (parts.map (·.1)) entries series?).children ≠ [] := by
    simpa [Group.children] using hne
  refine ⟨?listed, ?leaf, ?bare, ?inner⟩
  case listed =>
    intro u hu
    simp only [List.mem_flatten, List.mem_map, exists_exists_and_eq_and] at hu
    obtain ⟨part, hpart, hu⟩ := hu
    obtain ⟨path, leaf, hpath, hleaf, undivided, hnone, hcur⟩ := (hparts part hpart).listed u hu
    refine ⟨part.1.key :: path, leaf, by simpa using hpath,
      .part (List.mem_map_of_mem hpart) hleaf, undivided, hnone, fun hp => ?_⟩
    -- the currency is on the way below the part, or it is the key of the part itself
    by_cases hkey : ∀ code, part.1.key ≠ .currency code
    · obtain ⟨code, hcode⟩ := hcur (Position.currency?_enter_eq_none.2 ⟨hp, hkey⟩)
      exact ⟨code, List.mem_cons_of_mem _ hcode⟩
    · push Not at hkey
      obtain ⟨code, hcode⟩ := hkey
      exact ⟨code, hcode ▸ List.mem_cons_self⟩
  case leaf =>
    -- a leaf lies in one of the parts; without currency there, the key of the part is none either
    intro path leaf hleaf undivided hnone
    cases hleaf with
    | here => exact absurd undivided divided
    | part hc hleaf =>
      obtain ⟨part, hpart, rfl⟩ := List.mem_map.1 hc
      rcases (hparts part hpart).leaf _ leaf hleaf undivided hnone with ⟨u, hu, hpath⟩ | ⟨hcur, hb⟩
      · refine .inl ⟨u, List.mem_flatten.2 ⟨_, List.mem_map_of_mem hpart, hu⟩, by simpa using hpath⟩
      · obtain ⟨hp, hkey⟩ := Position.currency?_enter_eq_none.1 hcur
        refine .inr ⟨hp, hb.undivided, fun code hcode => ?_, hb.not_zero⟩
        rcases List.mem_cons.1 hcode with heq | hcode
        · exact hkey code heq.symm
        · exact hb.no_currency code hcode
  case bare =>
    -- no key on the way is a currency, so the part has none to begin with
    intro hp path leaf hleaf hb
    cases hleaf with
    | here => exact absurd hb.undivided divided
    | part hc hleaf =>
      obtain ⟨part, hpart, rfl⟩ := List.mem_map.1 hc
      have hkey : ∀ code, part.1.key ≠ .currency code :=
        fun code hcode => hb.no_currency code (hcode ▸ List.mem_cons_self)
      refine (hparts part hpart).bare (Position.currency?_enter_eq_none.2 ⟨hp, hkey⟩) _ leaf hleaf
        ⟨hb.undivided, fun code hcode => ?_, hb.not_zero⟩
      exact hb.no_currency code (List.mem_cons_of_mem _ hcode)
  case inner =>
    -- for the group itself by the sum, for what lies below it by its part
    intro path d hd
    cases hd with
    | here =>
      show t? = none ↔ _
      rw [hsum]
      constructor
      · -- a part without total has a leaf without one
        rintro ⟨part, hpart, hnone⟩
        obtain ⟨rest, leaf, hleaf, h⟩ := ((hparts part hpart).inner [] part.1 (.here _)).1 hnone
        exact ⟨_, leaf, .part (List.mem_map_of_mem hpart) hleaf, h⟩
      · -- such a leaf takes its part along
        rintro ⟨rest, leaf, hleaf, undivided, hnone⟩
        cases hleaf with
        | here => exact absurd undivided divided
        | part hc hleaf =>
          obtain ⟨part, hpart, rfl⟩ := List.mem_map.1 hc
          exact ⟨part, hpart,
            ((hparts part hpart).inner [] part.1 (.here _)).2 ⟨_, leaf, hleaf, undivided, hnone⟩⟩
    | part hc hd =>
      obtain ⟨part, hpart, rfl⟩ := List.mem_map.1 hc
      exact (hparts part hpart).inner _ d hd

/-! ### Conversion of the parts -/

lemma addTotals_eq_none {a? b? sum? : Option Decimal} (h : addTotals A a? b? = .ok sum?) :
    sum? = none ↔ a? = none ∨ b? = none := by
  cases a? <;> cases b? <;> simp only [addTotals] at h
  case some.some a b =>
    obtain ⟨sum, _, h⟩ := bind_eq_ok.1 h
    cases h
    simp
  all_goals
    cases h
    simp

/-- The parts of a group are converted each for itself, and their sum is missing if one of them is. -/
lemma convertAll_eq_ok {sum? : Option Decimal} {r : Converted}
    (h : convertAll A plan p levels sum? gs = .ok r) :
    ∃ parts : List (Group × List Unconverted),
      List.Forall₂ (fun g part =>
        convert A plan (p.enter levels.head? g.key) levels.tail g = .ok part) gs parts ∧
      r.groups = parts.map (·.1) ∧ r.unconverted = (parts.map (·.2)).flatten ∧
      (r.sum? = none ↔ sum? = none ∨ ∃ part ∈ parts, part.1.converted? = none) := by
  -- the sum so far goes from part to part, so the induction is over any sum
  induction gs generalizing sum? r with
  | nil =>
    rw [convertAll] at h
    cases h
    exact ⟨[], .nil, by simp⟩
  | cons g gs ih =>
    rw [convertAll] at h
    obtain ⟨⟨g', missing⟩, hg, h⟩ := bind_eq_ok.1 h
    obtain ⟨next?, hnext, h⟩ := bind_eq_ok.1 h
    obtain ⟨rest, hrest, h⟩ := bind_eq_ok.1 h
    cases h
    obtain ⟨parts, hparts, hgroups, hmissing, hsum⟩ := ih hrest
    refine ⟨(g', missing) :: parts, .cons hg hparts, by simp [hgroups], by simp [hmissing], ?_⟩
    rw [hsum, addTotals_eq_none hnext, or_assoc, List.exists_mem_cons_iff]

lemma convert_leaf {key : GroupKey} {converted? : Option Decimal} {entries : List EntryRef}
    {series? : Option DaySeries}
    (h : convert A plan p levels (.mk key total converted? [] entries series?) = .ok (g', missing)) :
    ∃ t?, convertTotal A plan p total = .ok (t?, missing) ∧
      g' = .mk key total t? [] entries series? := by
  rw [convert, if_pos List.isEmpty_nil] at h
  obtain ⟨⟨t?, missing⟩, ht, h⟩ := bind_eq_ok.1 h
  cases h
  exact ⟨t?, ht, rfl⟩

lemma convert_node {converted? : Option Decimal} {children : List Group} {entries : List EntryRef}
    {series? : Option DaySeries} (hne : children ≠ [])
    (h : convert A plan p levels (.mk key total converted? children entries series?)
      = .ok (g', missing)) :
    ∃ t? parts, List.Forall₂ (fun g part =>
        convert A plan (p.enter levels.head? g.key) levels.tail g = .ok part) children parts ∧
      g' = .mk key total t? (parts.map (·.1)) entries series? ∧
      missing = (parts.map (·.2)).flatten ∧
      (t? = none ↔ ∃ part ∈ parts, part.1.converted? = none) := by
  rw [convert, if_neg (by simpa using hne)] at h
  obtain ⟨r, hr, h⟩ := bind_eq_ok.1 h
  cases h
  obtain ⟨parts, hparts, hgroups, hmissing, hsum⟩ := convertAll_eq_ok hr
  exact ⟨r.sum?, parts, hparts, by rw [hgroups], hmissing, by simpa using hsum⟩

lemma key_of_convert (h : convert A plan p levels g = .ok (g', missing)) : g'.key = g.key := by
  obtain ⟨key, total, converted?, children, entries, series?⟩ := g
  by_cases hne : children = []
  · subst hne
    obtain ⟨_, _, rfl⟩ := convert_leaf h
    rfl
  · obtain ⟨_, _, _, rfl, _⟩ := convert_node hne h
    rfl

mutual

/-- A conversion changes nothing but the converted totals. -/
theorem withoutConverted_of_convert {p : Position} {levels : List Level} :
    ∀ {g g' missing}, convert A plan p levels g = .ok (g', missing) →
      g'.withoutConverted = g.withoutConverted
  | .mk key total converted? children entries series?, g', missing, h => by
    by_cases hne : children = []
    · subst hne
      obtain ⟨_, _, rfl⟩ := convert_leaf h
      rfl
    · rw [convert, if_neg (by simpa using hne)] at h
      obtain ⟨r, hr, h⟩ := bind_eq_ok.1 h
      have parts := withoutConvertedAll_of_convertAll hr
      cases h
      rw [Group.withoutConverted, Group.withoutConverted, parts]

theorem withoutConvertedAll_of_convertAll {p : Position} {levels : List Level} :
    ∀ {gs sum? r}, convertAll A plan p levels sum? gs = .ok r →
      Group.withoutConvertedAll r.groups = Group.withoutConvertedAll gs
  | [], sum?, r, h => by
    rw [convertAll] at h
    cases h
    rfl
  | g :: gs, sum?, r, h => by
    rw [convertAll] at h
    obtain ⟨⟨g', missing⟩, hg, h⟩ := bind_eq_ok.1 h
    obtain ⟨next?, _, h⟩ := bind_eq_ok.1 h
    obtain ⟨rest, hrest, h⟩ := bind_eq_ok.1 h
    have first := withoutConverted_of_convert hg
    have others := withoutConvertedAll_of_convertAll hrest
    cases h
    rw [Group.withoutConvertedAll, Group.withoutConvertedAll, first, others]

end

/-- A conversion accounts for the totals that it leaves out. -/
theorem convert_accounts {p : Position} {levels : List Level} :
    ∀ {g g' missing}, convert A plan p levels g = .ok (g', missing) → Accounts p g' missing
  | .mk key total converted? children entries series?, g', missing, h => by
    by_cases hne : children = []
    · subst hne
      obtain ⟨_, ht, rfl⟩ := convert_leaf h
      exact .of_leaf ht
    · obtain ⟨t?, parts, hparts, rfl, rfl, hsum⟩ := convert_node hne h
      have divided : parts ≠ [] := by
        rintro rfl
        exact hne (List.forall₂_nil_right_iff.1 hparts)
      have accounts : ∀ part ∈ parts,
          Accounts (p.enter levels.head? part.1.key) part.1 part.2 := by
        intro part hpart
        obtain ⟨c, hc, hconvert⟩ := exists_of_mem_forall₂ hparts hpart
        rw [key_of_convert hconvert]
        exact convert_accounts hconvert
      exact .of_parts divided accounts hsum

end Consolidation

/-! ### Trees of reports -/

namespace Group

variable {path : List GroupKey} {g d : Group} {n : ℕ}

/-- What is reached in a pruned tree was there before, and is pruned itself. -/
lemma Reaches.of_prune (h : g.prune.Reaches path d) : ∃ e, g.Reaches path e ∧ d = e.prune := by
  induction path generalizing g with
  | nil => exact ⟨g, .here g, reaches_nil.1 h⟩
  | cons key path ih =>
    obtain ⟨c', hc', hkey, hd⟩ := reaches_cons.1 h
    rw [children_prune, pruneAll_eq_map] at hc'
    obtain ⟨c, hc, rfl⟩ := List.mem_map.1 hc'
    obtain ⟨e, he, rfl⟩ := ih hd
    rw [key_prune] at hkey
    exact ⟨e, reaches_cons.2 ⟨c, List.mem_of_mem_filter hc, hkey, he⟩, rfl⟩

lemma SiblingsDiffer.prune (h : g.SiblingsDiffer) : g.prune.SiblingsDiffer := by
  intro path d hd
  obtain ⟨e, he, rfl⟩ := hd.of_prune
  have keys : (pruneAll e.children).map Group.key
      = (e.children.filter fun c => !c.total.vanishesAt zeroPlaces).map Group.key := by
    rw [pruneAll_eq_map, List.map_map]
    exact List.map_congr_left fun c _ => key_prune c
  rw [children_prune, keys]
  exact (h path e he).sublist (List.filter_sublist.map _)

/-- A group without postings comes to zero. -/
lemma Reports.isZero_of_nil (h : Reports .rounding days? order n [] g) : g.total.isZero = true := by
  have empty : ∀ {isLeaf total series?}, Bucket.conclude .rounding isLeaf (.empty days?)
      = .ok (total, series?) → total.isZero = true := by
    intro isLeaf total series? hc
    cases days? with
    | none =>
      cases hc
      rfl
    | some days =>
      obtain ⟨htotal, _⟩ := Bucket.conclude_daily_eq_ok.1 hc
      cases htotal
      rfl
  obtain ⟨tally, tally_eq, conclude_eq⟩ := h.concluded
  cases tally_eq
  exact empty conclude_eq

/-- In a report that hides nothing, only a root without postings belongs to no currency. -/
theorem Reports.zeroOutsideCurrencies (h : Reports .rounding days? order levels.length ps g)
    (hcur : .currency ∈ levels) (keyed : ∀ q ∈ ps, ∃ e v, q.path = levels.map (·.key e v)) :
    g.ZeroOutsideCurrencies := by
  intro path d hd hbare
  obtain ⟨m, hm, hpart⟩ := h.reaches hd
  by_cases hnone : Posting.below path ps = []
  · -- only the root can be without postings, and then it comes to zero
    rw [hnone] at hpart
    exact absurd hpart.isZero_of_nil (by simp [hbare.not_zero])
  · -- a leaf with postings has a whole path, and the level of currencies is on it
    have full : ∀ q ∈ ps, q.path.length = levels.length := by
      intro q hq
      obtain ⟨e, v, hpath⟩ := keyed q hq
      rw [hpath, List.length_map]
    obtain ⟨q, hq, rfl⟩ := h.exists_path_eq full hd hbare.undivided hnone
    obtain ⟨e, v, hpath⟩ := keyed q hq
    refine hbare.no_currency e.currency ?_
    rw [hpath]
    exact List.mem_map_of_mem (f := (Level.key · e v)) hcur

end Group

/-! ### Explained totals -/

open Consolidation

/-- Where siblings differ, a conversion explains what is missing if there are no bare groups. -/
lemma Consolidated.explained_iff_of_accounts {c : Consolidated}
    (differ : c.subtotal.root.SiblingsDiffer)
    (h : Accounts .root c.subtotal.root c.unconverted)
    (htotal : c.grandTotal? = c.subtotal.root.converted?) :
    c.Explained ↔ c.subtotal.root.ZeroOutsideCurrencies := by
  constructor
  · -- (→) what explains a bare group would be listed at that group, under a currency
    intro explained path d hd hbare
    have hnone := h.bare rfl path d hd hbare
    obtain ⟨u, hu, hprefix⟩ := (explained.converted path d hd).1 hnone
    obtain ⟨_, leaf, hpath, hleaf, _, _, hcur⟩ := h.listed u hu
    obtain ⟨code, hcode⟩ := hcur rfl
    rw [hpath] at hprefix
    obtain ⟨rest, rfl⟩ := hprefix
    obtain ⟨e, he, hrest⟩ := Group.reaches_append.1 hleaf
    obtain rfl := he.unique differ hd
    obtain rfl := hrest.eq_nil hbare.undivided
    exact hbare.no_currency code (by simpa using hcode)
  · -- (←) without bare groups every missing leaf is listed
    intro zero
    have converted : ∀ path g, c.subtotal.root.Reaches path g →
        (g.converted? = none ↔ ∃ u ∈ c.unconverted, path <+: u.path) := by
      intro path g hg
      rw [h.inner path g hg]
      constructor
      · -- a missing total comes from a leaf below it
        rintro ⟨rest, leaf, hleaf, undivided, hnone⟩
        have hroot := Group.reaches_append.2 ⟨g, hg, hleaf⟩
        rcases h.leaf _ leaf hroot undivided hnone with ⟨u, hu, hpath⟩ | ⟨_, hbare⟩
        · exact ⟨u, hu, hpath ▸ List.prefix_append ..⟩
        · exact absurd hbare (zero _ leaf hroot)
      · -- what is listed at or below a group lies below that very group, as siblings differ
        rintro ⟨u, hu, hprefix⟩
        obtain ⟨_, leaf, hpath, hleaf, undivided, hnone, _⟩ := h.listed u hu
        rw [hpath] at hprefix
        obtain ⟨rest, rfl⟩ := hprefix
        obtain ⟨e, he, hrest⟩ := Group.reaches_append.1 hleaf
        obtain rfl := he.unique differ hg
        exact ⟨rest, leaf, hrest, undivided, hnone⟩
    refine ⟨?_, converted⟩
    rw [htotal, converted [] _ (.here _), Consolidated.isComplete]
    cases c.unconverted <;> simp

/-- With a level of currencies, a report of amounts is converted from its root on. -/
lemma consolidate_eq {plan : Plan} (hcur : .currency ∈ s.levels) (hcount : s.aggregation ≠ .count) :
    consolidate A s plan = liftOverflow (convert A plan .root s.levels s.root) >>=
      fun (root, missing) => .ok ⟨{ s with root := root }, plan.currency, root.converted?, missing⟩ := by
  rw [consolidate, if_neg (by simpa using hcur), if_neg hcount]
  rfl

/-- With a level of currencies, a report of amounts is converted unless something overflows. The result
explains every total that is missing, except where zeros are hidden and a group outside of the currencies
is left undivided although it does not come to zero. -/
theorem explained_iff (hs : subtotal .rounding stream query spec = .ok s)
    (hcur : .currency ∈ spec.levels) (hcount : spec.aggregation ≠ .count) (plan : Plan) :
    (∃ o, consolidate .rounding s plan = .error (.overflow o)) ∨
    ∃ c, consolidate .rounding s plan = .ok c ∧
      (c.Explained ↔ (spec.aggregation = .nonZero → s.root.ZeroOutsideCurrencies)) := by
  obtain ⟨days?, hdays⟩ := exists_span_of_subtotal hs
  obtain ⟨ps, g, hps, _, reports, _, rfl⟩ := reports_of_subtotal hdays hs
  have differ : (if spec.aggregation = .nonZero then g.prune else g).SiblingsDiffer := by
    split
    · exact reports.siblingsDiffer.prune
    · exact reports.siblingsDiffer
  rw [consolidate_eq hcur hcount]
  cases hconvert : convert .rounding plan .root spec.levels
      (if spec.aggregation = .nonZero then g.prune else g) with
  | error o => exact .inl ⟨o, rfl⟩
  | ok r =>
    obtain ⟨root, missing⟩ := r
    refine .inr ⟨_, rfl, ?_⟩
    have same := withoutConverted_of_convert hconvert
    have differ' : root.SiblingsDiffer := by
      rw [← Group.siblingsDiffer_withoutConverted, same]
      exact Group.siblingsDiffer_withoutConverted.2 differ
    have zero_iff : root.ZeroOutsideCurrencies ↔
        (if spec.aggregation = .nonZero then g.prune else g).ZeroOutsideCurrencies := by
      rw [← Group.zeroOutsideCurrencies_withoutConverted, same,
        Group.zeroOutsideCurrencies_withoutConverted]
    rw [Consolidated.explained_iff_of_accounts differ' (convert_accounts hconvert) rfl, zero_iff]
    refine ⟨fun h _ => h, fun h => ?_⟩
    by_cases hhide : spec.aggregation = .nonZero
    · exact h hhide
    · rw [if_neg hhide]
      exact reports.zeroOutsideCurrencies hcur (exists_keys_of_postings hps)

/-- A hundred off another account. -/
def Voucher.settlement : Voucher where
  id? := some "settlement"
  date? := some .february1
  kind := .ordinary
  remark? := none
  entries := [.plain 6001 (Decimal.of? (-100) 0)]

/-- Amounts in yuan, without any rates. -/
def ratelessPlan : Plan := ⟨"CNY", .unavailable "offline", .january30⟩

/-- The dollars have no rate, so neither they nor anything above them has a total in yuan. -/
theorem exchange_explained : ∃ s, subtotal .rounding ([.exchange, .settlement].map .ok)
      (.ofTree .all) ⟨[.account, .currency], .sum, none, .firstSeen, false⟩ = .ok s ∧
    Level.currency ∈ [Level.account, .currency] ∧ Aggregation.sum ≠ .count ∧
    ∃ c, consolidate .rounding s ratelessPlan = .ok c ∧ c.grandTotal? = none ∧ c.Explained := by
  refine ⟨_, rfl, by decide, by decide, ?_⟩
  have hs : subtotal .rounding ([.exchange, .settlement].map .ok) (.ofTree .all)
      ⟨[.account, .currency], .sum, none, .firstSeen, false⟩ = .ok _ := rfl
  obtain ⟨o, ho⟩ | ⟨c, hc, h⟩ := explained_iff hs (by decide) (by decide) ratelessPlan
  · cases ho
  · refine ⟨c, hc, ?_, h.2 nofun⟩
    cases hc
    rfl

/-- A voucher with one entry. -/
def Voucher.single (date : Date) (currency : String) (amount : Decimal) : Voucher where
  id? := none
  date? := some date
  kind := .ordinary
  remark? := none
  entries := [.single currency amount]

/-- Four billionths, less than a report shows. -/
def Decimal.fourBillionths : Decimal :=
  ⟨4, 9, false, four.mantissa_lt, by decide, four.eq_zero_of_minusZero⟩

/-- Four billionths come to zero in a report and are hidden, but the root keeps them, as an amount in no
currency. Its total is missing, although there is nothing without a rate. -/
theorem residue_unexplained : ∃ s c,
    subtotal .rounding [.ok (.single .january30 "CNY" .fourBillionths)] (.ofTree .all)
      ⟨[.currency], .nonZero, none, .firstSeen, false⟩ = .ok s ∧
    consolidate .rounding s ratelessPlan = .ok c ∧ ¬ c.Explained := by
  refine ⟨_, _, rfl, rfl, ?_⟩
  intro explained
  cases explained.grandTotal.1 rfl

end Daybook
