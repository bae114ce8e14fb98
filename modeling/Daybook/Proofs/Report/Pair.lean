import Daybook.Proofs.Report.Conversion

/-!
# Converted totals of one or two postings

A posting alone is converted at the rate of the position at the end of its path
(`Consolidation.convertedTotal_single`), and two of them with different paths are converted each at its
own rate (`Consolidation.convertedTotal_pair`). This is how two amounts that offset each other can come to
something else than zero.
-/

namespace Daybook

namespace Consolidation

variable {plan : Plan} {p : Position} {levels : List Level} {x x₁ x₂ t : Decimal} {g : Group}
  {A : Arithmetic} {ps : List Posting} {q q₁ q₂ : Posting} {order : GroupOrder} {e : Entry} {v : Voucher}

/-! ### Positions at the ends of paths -/

/-- The position at the end of a path. -/
def Position.follow (p : Position) : List Level → List GroupKey → Position
  | l :: levels, key :: path => (p.enter (some l) key).follow levels path
  | _,           _           => p

/-- A path along a level of currencies ends in the currency of the entry. -/
lemma Position.currency?_follow (h : .currency ∈ levels ∨ p.currency? = some e.currency) :
    (p.follow levels (levels.map (·.key e v))).currency? = some e.currency := by
  induction levels generalizing p with
  | nil => exact h.resolve_left List.not_mem_nil
  | cons l levels ih =>
    by_cases hl : l = .currency
    · subst hl
      exact ih (.inr rfl)
    · apply ih
      rw [currency?_enter_of_ne hl]
      exact h.imp_left fun hmem => (List.mem_cons.1 hmem).resolve_left (Ne.symm hl)

/-- A path along levels of dates ends on the last day of a period. -/
lemma Position.exists_date?_follow {d : Date} (hd : v.date? = some d)
    (h : (∃ l ∈ levels, l.period? ≠ none) ∨
      ∃ period : Period, p.date? = some (period.endOf (period.startOf d))) :
    ∃ period : Period, (p.follow levels (levels.map (·.key e v))).date?
      = some (period.endOf (period.startOf d)) := by
  induction levels generalizing p with
  | nil => exact h.resolve_left fun ⟨_, hmem, _⟩ => List.not_mem_nil hmem
  | cons l levels ih =>
    cases hl : l.period? with
    | none =>
      apply ih
      rw [date?_enter hl]
      apply h.imp_left
      rintro ⟨l', hmem, hl'⟩
      rcases List.mem_cons.1 hmem with rfl | hmem
      · exact absurd hl hl'
      · exact ⟨l', hmem, hl'⟩
    | some period =>
      refine ih (.inr ⟨period, ?_⟩)
      cases l with
      | period q =>
        cases hl
        simp [Level.key, enter, Level.period?, hd]
      | currency | account | subaccount | content | remark | owner | kind => cases hl

/-! ### Groups with one or two parts -/

/-- Postings with one next key make up one part. -/
lemma exists_child_of_nextKeys {m : ℕ} {key : GroupKey}
    (h : Group.Reports A none order (m + 1) ps g) (lengths : ∀ q ∈ ps, q.path.length = m + 1)
    (hkeys : Posting.nextKeys ps = [key]) :
    ∃ c, g.children = [c] ∧ c.key = key ∧
      Group.Reports A none order m (Posting.under key ps) c := by
  have children_keys : g.children.map Group.key = [key] := by
    rw [h.keys_eq lengths, hkeys, ← List.perm_singleton]
    exact GroupKey.arrange_perm order [key]
  obtain ⟨c, hc, rfl⟩ := List.map_eq_singleton_iff.1 children_keys
  exact ⟨c, hc, rfl, h.part_of_succ (hc ▸ List.mem_singleton_self c)⟩

/-- Postings with two next keys make up two parts. -/
lemma exists_children_of_nextKeys {m : ℕ} {key₁ key₂ : GroupKey}
    (h : Group.Reports A none .firstSeen (m + 1) ps g) (lengths : ∀ q ∈ ps, q.path.length = m + 1)
    (hkeys : Posting.nextKeys ps = [key₁, key₂]) :
    ∃ c₁ c₂, g.children = [c₁, c₂] ∧ c₁.key = key₁ ∧ c₂.key = key₂ ∧
      Group.Reports A none .firstSeen m (Posting.under key₁ ps) c₁ ∧
      Group.Reports A none .firstSeen m (Posting.under key₂ ps) c₂ := by
  have children_keys : g.children.map Group.key = [key₁, key₂] := by
    rw [h.keys_eq lengths, hkeys]
    rfl
  obtain ⟨c₁, cs, hc, rfl, hcs⟩ := List.map_eq_cons_iff.1 children_keys
  obtain ⟨c₂, rfl, rfl⟩ := List.map_eq_singleton_iff.1 hcs
  refine ⟨c₁, c₂, hc, rfl, rfl, h.part_of_succ ?_, h.part_of_succ ?_⟩
  · simp [hc]
  · simp [hc]

/-- A group with one part comes to what the part comes to. -/
lemma convertedTotal_of_child {c : Group} (hc : g.children = [c])
    (hx : convertedTotal .lossless plan (p.enter levels.head? c.key) levels.tail c = .ok (some x)) :
    convertedTotal .lossless plan p levels g = .ok (some x) := by
  rw [convertedTotal_node (by simp [hc]), hc, convertedSum_cons_eq_some]
  exact ⟨x, x, hx, Arithmetic.lossless_zero_add x, convertedSum_nil _⟩

lemma convertedTotal_of_children {c₁ c₂ : Group} (hc : g.children = [c₁, c₂])
    (hx₁ : convertedTotal .lossless plan (p.enter levels.head? c₁.key) levels.tail c₁ = .ok (some x₁))
    (hx₂ : convertedTotal .lossless plan (p.enter levels.head? c₂.key) levels.tail c₂ = .ok (some x₂))
    (hadd : Arithmetic.lossless.add x₁ x₂ = .ok t) :
    convertedTotal .lossless plan p levels g = .ok (some t) := by
  rw [convertedTotal_node (by simp [hc]), hc, convertedSum_cons_eq_some]
  refine ⟨x₁, x₁, hx₁, Arithmetic.lossless_zero_add x₁, ?_⟩
  exact convertedSum_cons_eq_some.2 ⟨x₂, t, hx₂, hadd, convertedSum_nil _⟩

/-! ### One posting -/

/-- A posting alone is converted at the rate of the position at the end of its path. -/
theorem convertedTotal_single (h : Group.Reports .lossless none order levels.length [q] g)
    (hlength : q.path.length = levels.length)
    (hx : (·.1) <$> convertTotal .lossless plan (p.follow levels q.path) q.amount = .ok (some x)) :
    convertedTotal .lossless plan p levels g = .ok (some x) := by
  induction levels generalizing p q g with
  | nil =>
    have htotal : q.amount = g.total := by
      have := h.sum_eq.1
      simpa [Arithmetic.sum, Arithmetic.lossless_zero_add] using this
    rw [convertedTotal_leaf h.undivided, ← htotal]
    exact hx
  | cons l levels ih =>
    obtain ⟨key, path, hpath⟩ := List.exists_cons_of_length_eq_add_one hlength
    have hkeys : Posting.nextKeys [q] = [key] := by simp [Posting.nextKeys, hpath, Voucher.distinct]
    obtain ⟨c, hc, rfl, hpart⟩ := exists_child_of_nextKeys h (by simpa using hlength) hkeys
    have hunder : Posting.under c.key [q] = [{ q with path := path }] := by
      simp [Posting.under, Posting.enter?, hpath]
    rw [hunder] at hpart
    rw [hpath] at hlength hx
    exact convertedTotal_of_child hc (ih hpart (by simpa using hlength) hx)

/-! ### Two postings -/

/-- Two postings with different paths are converted each at its own rate. -/
theorem convertedTotal_pair
    (h : Group.Reports .lossless none .firstSeen levels.length [q₁, q₂] g)
    (hlength₁ : q₁.path.length = levels.length) (hlength₂ : q₂.path.length = levels.length)
    (hne : q₁.path ≠ q₂.path)
    (hx₁ : (·.1) <$> convertTotal .lossless plan (p.follow levels q₁.path) q₁.amount = .ok (some x₁))
    (hx₂ : (·.1) <$> convertTotal .lossless plan (p.follow levels q₂.path) q₂.amount = .ok (some x₂))
    (hadd : Arithmetic.lossless.add x₁ x₂ = .ok t) :
    convertedTotal .lossless plan p levels g = .ok (some t) := by
  induction levels generalizing p q₁ q₂ g with
  | nil =>
    rw [List.length_nil, List.length_eq_zero_iff] at hlength₁ hlength₂
    exact absurd (hlength₁.trans hlength₂.symm) hne
  | cons l levels ih =>
    obtain ⟨key₁, path₁, hpath₁⟩ := List.exists_cons_of_length_eq_add_one hlength₁
    obtain ⟨key₂, path₂, hpath₂⟩ := List.exists_cons_of_length_eq_add_one hlength₂
    have lengths : ∀ q ∈ [q₁, q₂], q.path.length = levels.length + 1 := by
      simpa using ⟨hlength₁, hlength₂⟩
    rw [hpath₁] at hlength₁ hx₁ hne
    rw [hpath₂] at hlength₂ hx₂ hne
    by_cases hkey : key₁ = key₂
    · -- both go into one part, and part later on
      subst hkey
      have hkeys : Posting.nextKeys [q₁, q₂] = [key₁] := by
        simp [Posting.nextKeys, hpath₁, hpath₂, Voucher.distinct]
      obtain ⟨c, hc, rfl, hpart⟩ := exists_child_of_nextKeys h lengths hkeys
      have hunder : Posting.under c.key [q₁, q₂]
          = [{ q₁ with path := path₁ }, { q₂ with path := path₂ }] := by
        simp [Posting.under, Posting.enter?, hpath₁, hpath₂]
      rw [hunder] at hpart
      refine convertedTotal_of_child hc (ih hpart (by simpa using hlength₁) (by simpa using hlength₂)
        ?_ hx₁ hx₂)
      exact fun heq => hne (congrArg _ heq)
    · -- each goes into a part of its own
      have hkeys : Posting.nextKeys [q₁, q₂] = [key₁, key₂] := by
        simp [Posting.nextKeys, hpath₁, hpath₂, Voucher.distinct, Ne.symm hkey]
      obtain ⟨c₁, c₂, hc, rfl, rfl, hpart₁, hpart₂⟩ := exists_children_of_nextKeys h lengths hkeys
      have hunder₁ : Posting.under c₁.key [q₁, q₂] = [{ q₁ with path := path₁ }] := by
        simp [Posting.under, Posting.enter?, hpath₁, hpath₂, Ne.symm hkey]
      have hunder₂ : Posting.under c₂.key [q₁, q₂] = [{ q₂ with path := path₂ }] := by
        simp [Posting.under, Posting.enter?, hpath₁, hpath₂, hkey]
      rw [hunder₁] at hpart₁
      rw [hunder₂] at hpart₂
      have total₁ := convertedTotal_single hpart₁ (by simpa using hlength₁) hx₁
      have total₂ := convertedTotal_single hpart₂ (by simpa using hlength₂) hx₂
      exact convertedTotal_of_children hc total₁ total₂ hadd

end Consolidation

end Daybook
