import Mathlib.Data.List.Chain
import Mathlib.Data.List.Nodup
import Promotions.Proofs.Questions

/-!
What validation establishes. The rules are stated once, on the records that are stored, and what
passes either validator keeps them: the one for new promotions all of them, the one for changes
those on the content.
-/

namespace Promotions

open Text

/-! ### The rules -/

structure Target.WellFormed (t : Target) : Prop where
  ageFrom : ∀ age, t.ageFrom = some age → 0 ≤ age ∧ age ≤ 100
  ageUntil : ∀ age, t.ageUntil = some age → 0 ≤ age ∧ age ≤ 100
  ages : ∀ low high, t.ageFrom = some low → t.ageUntil = some high → low ≤ high
  country : ∀ code, t.country = some code → code ∈ countryCodes
  categories : ∀ name ∈ t.categories, name.length ≤ 20

structure Content.WellFormed (c : Content) : Prop where
  description : 10 ≤ c.description.length ∧ c.description.length ≤ 300
  imageUrl : ∀ url, c.imageUrl = some url →
    blank url = false ∧ (Url.ofString? url).isSome ∧ url.length ≤ 350
  target : c.target.WellFormed
  period : ∀ start finish, c.activeFrom = some start → c.activeUntil = some finish →
    start < finish

/-- The rules on the codes that promotions of a mode are created with. -/
def Mode.Issues : Mode → List NewCode → Prop
  | .common, codes => ∃ code maxCount, codes = [⟨code, maxCount⟩] ∧ blank code = false ∧
      (5 ≤ code.length ∧ code.length ≤ 30) ∧ 1 ≤ maxCount
  | .unique, codes => codes ≠ [] ∧ (codes.map (·.code)).Nodup ∧
      ∀ c ∈ codes, (3 ≤ c.code.length ∧ c.code.length ≤ 30) ∧ c.maxCount = 1

/-- The codes that promotions are created with differ, fit and may be activated. -/
theorem Mode.Issues.fit {m : Mode} {codes : List NewCode} (h : m.Issues codes) :
    (codes.map (·.code)).Nodup ∧ ∀ c ∈ codes, c.code.length ≤ 30 ∧ 1 ≤ c.maxCount := by
  cases m with
  | common =>
    obtain ⟨code, maxCount, rfl, -, hlength, hlimit⟩ := h
    refine ⟨List.nodup_singleton _, fun c hc => ?_⟩
    obtain rfl := List.mem_singleton.mp hc
    exact ⟨hlength.2, hlimit⟩
  | unique =>
    obtain ⟨-, hdistinct, hcodes⟩ := h
    refine ⟨hdistinct, fun c hc => ?_⟩
    obtain ⟨hlength, hlimit⟩ := hcodes c hc
    exact ⟨hlength.2, hlimit ▸ Int64.le_refl 1⟩

structure Draft.WellFormed (d : Draft) : Prop where
  company : d.companyId ≠ .nil
  content : d.content.WellFormed
  codes : d.budget.mode.Issues d.budget.pool

/-- A code as it was created, whatever has been redeemed of it. -/
def CodeCount.issued (c : CodeCount) : NewCode := ⟨c.code, c.maxCount⟩

/-- The rules on promotions, apart from how far their codes are redeemed. -/
structure Promotion.Lawful (p : Promotion) : Prop where
  company : p.companyId ≠ .nil
  content : p.content.WellFormed
  codes : p.mode.Issues (p.codes.map CodeCount.issued)

structure Promotion.WellFormed (p : Promotion) : Prop extends p.Lawful where
  counts : ∀ c ∈ p.codes, 0 ≤ c.activations ∧ c.activations ≤ c.maxCount

theorem length_countryCodes : countryCodes.length = 249 := by decide +kernel

theorem capitals_of_mem_countryCodes :
    ∀ code ∈ countryCodes, code.length = 2 ∧ code.toList.all Char.isUpper := by
  decide +kernel

theorem countryCodes_sorted : countryCodes.Pairwise (· < ·) := by
  have hnext : countryCodes.IsChain (· < ·) := by decide +kernel
  exact List.isChain_iff_pairwise.mp hnext

/-- No country stands in the list twice, since each comes after the one before. -/
theorem countryCodes_nodup : countryCodes.Nodup := by
  refine countryCodes_sorted.imp ?_
  rintro code _ hlt rfl
  exact String.lt_irrefl code hlt

/-! ### Lists in order -/

theorem mem_of_standsWithin {codes : List String} {s : String} {bound low size : Nat}
    (h : standsWithin codes s bound low size = true) : s ∈ codes := by
  induction bound generalizing low size with
  | zero => exact List.mem_of_getElem? (by simpa [standsWithin] using h)
  | succ bound ih =>
    rw [standsWithin] at h
    split at h
    · exact ih h
    · exact List.mem_of_getElem? (by simpa using h)

/-- A text of the list is found among the places that are looked at if it stands there. -/
theorem standsWithin_getElem {codes : List String} (hsorted : codes.Pairwise (· < ·))
    {i bound low size : Nat} (hi : i < codes.length) (hlow : low ≤ i) (hhigh : i < low + size)
    (hrange : low + size ≤ codes.length) (hbound : size ≤ bound + 1) :
    standsWithin codes codes[i] bound low size = true := by
  have hordered := List.pairwise_iff_getElem.mp hsorted
  induction bound generalizing low size with
  | zero =>
    obtain rfl : low = i := by omega
    simp [standsWithin, hi]
  | succ bound ih =>
    rw [standsWithin]
    split
    · have hmiddle : low + size / 2 < codes.length := by omega
      have hget : codes.getD (low + size / 2) "" = codes[low + size / 2] := by
        simp [List.getD_eq_getElem?_getD, hmiddle]
      -- The text of the middle tells in which half the text looked for stands.
      dsimp only
      rw [hget]
      split
      · rename_i hbefore
        have hfirst : i < low + size / 2 := by
          by_contra hle
          rcases Nat.eq_or_lt_of_le (Nat.le_of_not_lt hle) with rfl | hlt
          · exact String.lt_irrefl _ hbefore
          · exact String.lt_asymm hbefore (hordered _ _ hmiddle hi hlt)
        exact ih hlow (by omega) (by omega) (by omega)
      · rename_i hafter
        have hsecond : low + size / 2 ≤ i := by
          by_contra hlt
          exact hafter (hordered _ _ hi hmiddle (Nat.lt_of_not_le hlt))
        exact ih hsecond (by omega) (by omega) (by omega)
    · obtain rfl : low = i := by omega
      simp [hi]

/-- In a list that is in order, exactly its texts are found. -/
theorem standsIn_iff {codes : List String} (hsorted : codes.Pairwise (· < ·)) {s : String} :
    standsIn codes s = true ↔ s ∈ codes := by
  refine ⟨mem_of_standsWithin, fun hs => ?_⟩
  obtain ⟨i, hi, rfl⟩ := List.getElem_of_mem hs
  exact standsWithin_getElem hsorted hi (Nat.zero_le i) (by omega) (by omega) (by omega)

theorem names_country_iff {s code : String} :
    country? s = some code ↔ (trim s).map Char.toUpper = code ∧ code ∈ countryCodes := by
  unfold country?
  simp only [standsIn_iff countryCodes_sorted]
  split
  · rename_i hmem
    rw [Option.some.injEq]
    exact ⟨fun h => ⟨h, h ▸ hmem⟩, fun h => h.1⟩
  · rename_i hnot
    refine ⟨nofun, ?_⟩
    rintro ⟨rfl, hmem⟩
    exact absurd hmem hnot

/-! ### What passes keeps the rules -/

theorem blank_of_blankToNone {s : Option String} {t : String} (h : blankToNone s = some t) :
    blank t = false := by
  simpa using (Option.filter_eq_some_iff.mp h).2

theorem length_of_lengthWithin {low high : Nat} {s : String} (h : lengthWithin low high s = true) :
    low ≤ s.length ∧ s.length ≤ high := by
  simpa [lengthWithin] using h

namespace Target

theorem within_of_ageFits {age? : Option Int32} (h : ageFits age? = true) (age : Int32)
    (hage : age? = some age) : 0 ≤ age ∧ age ≤ 100 := by
  subst hage
  simpa [ageFits] using h

theorem le_of_agesOrdered {t : Target} (h : t.agesOrdered = true) (low high : Int32)
    (hlow : t.ageFrom = some low) (hhigh : t.ageUntil = some high) : low ≤ high := by
  simpa [agesOrdered, hlow, hhigh] using h

theorem mem_countryCodes_of_normalCountry {given normal : Option String}
    (h : normalCountry given = .ok normal) (code : String) (hcode : normal = some code) :
    code ∈ countryCodes := by
  subst hcode
  unfold normalCountry at h
  cases hgiven : blankToNone given with
  | none => simp [hgiven] at h
  | some s =>
    cases hcountry : country? s with
    | none => simp [hgiven, hcountry] at h
    | some found =>
      simp only [hgiven, hcountry, Except.ok.injEq, Option.some.injEq] at h
      exact h ▸ (names_country_iff.mp hcountry).2

theorem wellFormed_of_normalise {t t' : Target} (h : t.normalise = .ok t') : t'.WellFormed := by
  obtain ⟨u, hfrom, h⟩ := bind_ok h
  obtain ⟨u, huntil, h⟩ := bind_ok h
  obtain ⟨u, hages, h⟩ := bind_ok h
  obtain ⟨country, hcountry, h⟩ := bind_ok h
  cases hlong : t.categories.find? fun c => 20 < c.length with
  | some name => simp [hlong] at h
  | none =>
    simp only [hlong, Except.ok.injEq] at h
    subst h
    have hshort : ∀ name ∈ t.categories, name.length ≤ 20 := by
      simpa using hlong
    exact ⟨within_of_ageFits (eq_true_of_demand hfrom),
      within_of_ageFits (eq_true_of_demand huntil),
      le_of_agesOrdered (t := t) (eq_true_of_demand hages),
      mem_countryCodes_of_normalCountry hcountry, hshort⟩

end Target

namespace Content

theorem lt_of_periodOrdered {c : Content} (h : c.periodOrdered = true)
    (start finish : Calendar.Instant) (hstart : c.activeFrom = some start)
    (hfinish : c.activeUntil = some finish) : start < finish := by
  simpa [periodOrdered, hstart, hfinish] using h

/-- Normalised content whose period is in order is well-formed. -/
theorem wellFormed_of_normalise {c c' : Content} (h : c.normalise = .ok c')
    (hperiod : c'.periodOrdered = true) : c'.WellFormed := by
  obtain ⟨u, hdescription, h⟩ := bind_ok h
  obtain ⟨u, hlength, h⟩ := bind_ok h
  obtain ⟨u, hurl, h⟩ := bind_ok h
  obtain ⟨target, htarget, h⟩ := bind_ok h
  simp only [Except.ok.injEq] at h
  subst h
  refine ⟨length_of_lengthWithin (eq_true_of_demand hdescription), fun url himage => ?_,
    Target.wellFormed_of_normalise htarget, lt_of_periodOrdered hperiod⟩
  have himage : blankToNone c.imageUrl = some url := himage
  have hlength := eq_true_of_demand hlength
  have hurl := eq_true_of_demand hurl
  rw [himage, Option.all_some] at hlength hurl
  exact ⟨blank_of_blankToNone himage, hurl, (length_of_lengthWithin hlength).2⟩

end Content

namespace CreateRequest

theorem issues_of_commonBudget {code : Option String} {maxCount : Option Int64} {b : Budget}
    (h : commonBudget code maxCount = .ok b) : b.mode = .common ∧ b.mode.Issues b.pool := by
  unfold commonBudget at h
  cases hcode : blankToNone code with
  | none =>
    rw [hcode] at h
    cases h
  | some code =>
    rw [hcode] at h
    obtain ⟨u, hlength, h⟩ := bind_ok h
    cases maxCount with
    | none => cases h
    | some n =>
      by_cases hn : 1 ≤ n
      · simp only [hn, if_true, Except.ok.injEq] at h
        subst h
        exact ⟨rfl, code, n, rfl, blank_of_blankToNone hcode,
          length_of_lengthWithin (eq_true_of_demand hlength), hn⟩
      · simp [hn] at h

/-- Codes that pass one by one have fitting lengths and differ from each other and from those
before. -/
theorem distinct_of_checkCodes {before codes : List String} {u : Unit}
    (h : checkCodes before codes = .ok u) :
    codes.Nodup ∧ ∀ code ∈ codes,
      (3 ≤ code.length ∧ code.length ≤ 30) ∧ code ∉ before := by
  induction codes generalizing before with
  | nil => simp
  | cons code codes ih =>
    obtain ⟨u, hlength, h⟩ := bind_ok h
    obtain ⟨u, hnew, h⟩ := bind_ok h
    obtain ⟨hnodup, hrest⟩ := ih h
    have hlength := length_of_lengthWithin (eq_true_of_demand hlength)
    have hnew : code ∉ before := by simpa using eq_true_of_demand hnew
    refine ⟨List.nodup_cons.mpr ⟨?_, hnodup⟩, fun x hx => ?_⟩
    · intro hmem
      exact (hrest code hmem).2 List.mem_cons_self
    · rcases List.mem_cons.mp hx with rfl | hx
      · exact ⟨hlength, hnew⟩
      · obtain ⟨hxlength, hxnew⟩ := hrest x hx
        exact ⟨hxlength, fun hmem => hxnew (List.mem_cons_of_mem _ hmem)⟩

theorem issues_of_uniqueBudget {codes : Option (List String)} {b : Budget}
    (h : uniqueBudget codes = .ok b) : b.mode = .unique ∧ b.mode.Issues b.pool := by
  obtain ⟨u, hsome, h⟩ := bind_ok h
  obtain ⟨u, hcodes, h⟩ := bind_ok h
  simp only [Except.ok.injEq] at h
  subst h
  obtain ⟨hnodup, hlengths⟩ := distinct_of_checkCodes hcodes
  have hpool : (Budget.unique (codes.getD [])).pool.map (·.code) = codes.getD [] := by
    rw [Budget.pool, List.map_map]
    exact List.map_id' _
  refine ⟨rfl, ?_, hpool.symm ▸ hnodup, fun c hc => ?_⟩
  · simpa [Budget.pool] using eq_true_of_demand hsome
  · obtain ⟨code, hcode, rfl⟩ := List.mem_map.mp hc
    exact ⟨(hlengths code hcode).1, rfl⟩

/-- What passes as a request for a new promotion draws up one that keeps the rules. -/
theorem wellFormed_of_draft {r : CreateRequest} {company : Uuid} {d : Draft}
    (h : r.draft company = .ok d) : d.WellFormed := by
  obtain ⟨hcompany, mode, content, b, hcontent, hbudget, hperiod, rfl⟩ := exists_of_draft h
  refine ⟨hcompany, Content.wellFormed_of_normalise hcontent hperiod, ?_⟩
  cases mode with
  | common => exact (issues_of_commonBudget hbudget).2
  | unique => exact (issues_of_uniqueBudget hbudget).2

end CreateRequest

/-- What passes as a request for a change is content that keeps the rules. -/
theorem UpdateRequest.wellFormed_of_changes {r : UpdateRequest} {c : Content}
    (h : r.changes = .ok c) : c.WellFormed := by
  obtain ⟨content, hcontent, h⟩ := bind_ok h
  obtain ⟨u, hperiod, h⟩ := bind_ok h
  cases hsent : [FixedField.mode, .maxCount, .promoCommon, .promoUnique].find? r.sent with
  | some field => simp [hsent] at h
  | none =>
    simp only [hsent, Except.ok.injEq] at h
    exact h ▸ Content.wellFormed_of_normalise hcontent (eq_true_of_demand hperiod)

theorem Draft.issued_promotion (d : Draft) (id : Uuid) (createdAt : Calendar.Instant)
    (codes : List NewCode) :
    (d.promotion id createdAt codes).codes.map CodeCount.issued = codes := by
  rw [Draft.promotion, List.map_map]
  exact List.map_id' _

/-- A promotion that a draft makes keeps the rules, with none of its codes redeemed. -/
theorem Draft.WellFormed.promotion {d : Draft} (h : d.WellFormed) (id : Uuid)
    (createdAt : Calendar.Instant) : (d.promotion id createdAt d.budget.pool).Lawful := by
  refine ⟨h.company, h.content, ?_⟩
  rw [d.issued_promotion]
  exact h.codes

end Promotions
