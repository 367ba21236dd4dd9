import Promotions.Proofs.Validity

/-!
What a request for a new promotion is refused for. The rules stand in a list, each with the field
that it is about. A request that keeps them all passes, and one that does not is refused for the
first one that it breaks. Validation is put together from checks, and so is this: a check judges the
rules that it is for, and checks one after another judge the rules of all of them in their order.
-/

namespace Promotions

open Text

/-! ### Rules in their order -/

structure Rule where
  field : String
  kept : Prop

/-- The first of the rules that is broken is about this field. -/
def FirstBroken (rules : List Rule) (field : String) : Prop :=
  ∃ before rule after, rules = before ++ rule :: after ∧ (∀ x ∈ before, x.kept) ∧ ¬ rule.kept ∧
    rule.field = field

/-- A check goes well if the rules are kept, and otherwise names the field of the first one that is
broken. -/
def Judges {α : Type} (rules : List Rule) : Except Violation α → Prop
  | .ok _ => ∀ rule ∈ rules, rule.kept
  | .error v => FirstBroken rules v.field

section

variable {α β : Type} {rules rules' : List Rule} {x : Except Violation α} {field : String}

theorem FirstBroken.not_all (h : FirstBroken rules field) : ¬ ∀ rule ∈ rules, rule.kept := by
  obtain ⟨before, rule, after, rfl, -, hbroken, -⟩ := h
  exact fun hall => hbroken (hall rule (by simp))

theorem firstBroken_cons {rule : Rule} : FirstBroken (rule :: rules) field ↔
    ¬ rule.kept ∧ rule.field = field ∨ rule.kept ∧ FirstBroken rules field := by
  constructor
  · rintro ⟨before, broken, after, heq, hbefore, hbroken, hfield⟩
    cases before with
    | nil =>
      obtain ⟨rfl, rfl⟩ := List.cons.inj heq
      exact Or.inl ⟨hbroken, hfield⟩
    | cons first before =>
      obtain ⟨rfl, rfl⟩ := List.cons.inj heq
      obtain ⟨hfirst, hbefore⟩ := List.forall_mem_cons.mp hbefore
      exact Or.inr ⟨hfirst, before, broken, after, rfl, hbefore, hbroken, hfield⟩
  · rintro (⟨hbroken, hfield⟩ | ⟨hkept, before, broken, after, rfl, hbefore, hbroken, hfield⟩)
    · exact ⟨[], rule, rules, rfl, nofun, hbroken, hfield⟩
    · exact ⟨rule :: before, broken, after, rfl, List.forall_mem_cons.mpr ⟨hkept, hbefore⟩,
        hbroken, hfield⟩

namespace Judges

/-- A judgement comes to a result just when all rules are kept. -/
theorem isOk_iff (h : Judges rules x) : (∃ a, x = .ok a) ↔ ∀ rule ∈ rules, rule.kept := by
  cases x with
  | ok a => exact ⟨fun _ => h, fun _ => ⟨a, rfl⟩⟩
  | error v => exact ⟨nofun, fun hall => absurd hall (FirstBroken.not_all h)⟩

/-- Rules that are kept may come behind. -/
theorem append (h : Judges rules x) (behind : List Rule) (hkept : ∀ rule ∈ behind, rule.kept) :
    Judges (rules ++ behind) x := by
  cases x with
  | ok a => exact List.forall_mem_append.mpr ⟨h, hkept⟩
  | error v =>
    obtain ⟨before, rule, after, rfl, hbefore, hbroken, hfield⟩ := h
    exact ⟨before, rule, after ++ behind, by simp, hbefore, hbroken, hfield⟩

/-- Rules that are kept may come before. -/
theorem prepend (h : Judges rules x) (first : List Rule) (hkept : ∀ rule ∈ first, rule.kept) :
    Judges (first ++ rules) x := by
  cases x with
  | ok a => exact List.forall_mem_append.mpr ⟨hkept, h⟩
  | error v =>
    obtain ⟨before, rule, after, rfl, hbefore, hbroken, hfield⟩ := h
    exact ⟨first ++ before, rule, after, by simp,
      List.forall_mem_append.mpr ⟨hkept, hbefore⟩, hbroken, hfield⟩

/-- Checks one after another judge their rules one after another. -/
theorem bind {f : α → Except Violation β} (h : Judges rules x)
    (hf : ∀ a, x = .ok a → Judges rules' (f a)) : Judges (rules ++ rules') (x >>= f) := by
  cases x with
  | ok a => exact (hf a rfl).prepend rules h
  | error v =>
    obtain ⟨before, rule, after, rfl, hbefore, hbroken, hfield⟩ := h
    exact ⟨before, rule, after ++ rules', by simp, hbefore, hbroken, hfield⟩

/-- Once the rules are judged, what is made of their result does not matter. -/
theorem map (h : Judges rules x) (f : α → β) : Judges rules (x >>= fun a => .ok (f a)) := by
  cases x with
  | ok a => exact h
  | error v => exact h

/-- A check of one rule that goes well. -/
theorem of_kept {p : Prop} (h : p) (a : α) : Judges [⟨field, p⟩] (.ok a) :=
  List.forall_mem_singleton.mpr h

/-- A check that fails because of the first of its rules. -/
theorem of_broken {p : Prop} {v : Violation} (h : ¬ p) :
    Judges (⟨v.field, p⟩ :: rules) (.error v : Except Violation α) :=
  firstBroken_cons.mpr (Or.inl ⟨h, rfl⟩)

/-- Two rules on the same field, one after the other, are one rule. -/
theorem merge {p q r : Prop} (h : Judges (⟨field, p⟩ :: ⟨field, q⟩ :: rules) x)
    (hboth : r ↔ p ∧ q) : Judges (⟨field, r⟩ :: rules) x := by
  cases x with
  | ok a =>
    obtain ⟨hp, hq, hrules⟩ : p ∧ q ∧ ∀ rule ∈ rules, rule.kept := by simpa [Judges] using h
    exact List.forall_mem_cons.mpr ⟨hboth.mpr ⟨hp, hq⟩, hrules⟩
  | error v =>
    rcases firstBroken_cons.mp h with ⟨hp, hfield⟩ | ⟨hp, hrest⟩
    · exact firstBroken_cons.mpr (Or.inl ⟨fun hr => hp (hboth.mp hr).1, hfield⟩)
    · rcases firstBroken_cons.mp hrest with ⟨hq, hfield⟩ | ⟨hq, hrest⟩
      · exact firstBroken_cons.mpr (Or.inl ⟨fun hr => hq (hboth.mp hr).2, hfield⟩)
      · exact firstBroken_cons.mpr (Or.inr ⟨hboth.mpr ⟨hp, hq⟩, hrest⟩)

end Judges

/-- A demand judges by a single rule. -/
theorem judges_demand {kept : Bool} {v : Violation} {p : Prop} (h : kept = true ↔ p) :
    Judges [⟨v.field, p⟩] (demand kept v) := by
  cases kept with
  | true => exact .of_kept (h.mp rfl) ()
  | false => exact .of_broken fun hp => Bool.false_ne_true (h.mpr hp)

end

/-! ### The rules on requests for new promotions -/

/-- The rules on whom a promotion is for. A country is known by its code, in either letter case and
with blanks around it. -/
def Target.rules (t : Target) : List Rule := [
  ⟨"target.ageFrom", ∀ age, t.ageFrom = some age → 0 ≤ age ∧ age ≤ 100⟩,
  ⟨"target.ageUntil", (∀ age, t.ageUntil = some age → 0 ≤ age ∧ age ≤ 100) ∧
    ∀ low high, t.ageFrom = some low → t.ageUntil = some high → low ≤ high⟩,
  ⟨"target.country", ∀ s, t.country = some s →
    blank s = true ∨ (trim s).map Char.toUpper ∈ countryCodes⟩,
  ⟨"target.categories", ∀ name ∈ t.categories, name.length ≤ 20⟩]

def Content.rules (c : Content) : List Rule :=
  ⟨"description", 10 ≤ c.description.length ∧ c.description.length ≤ 300⟩ ::
  ⟨"imageUrl", ∀ url, c.imageUrl = some url →
    blank url = true ∨ url.length ≤ 350 ∧ (Url.ofString? url).isSome = true⟩ ::
  c.target.rules

def Content.periodRule (c : Content) : Rule :=
  ⟨"activeUntil", ∀ start finish, c.activeFrom = some start → c.activeUntil = some finish →
    start < finish⟩

namespace CreateRequest

def codeRules (r : CreateRequest) : List Rule := [
  ⟨"promoCommon", trim r.mode = "COMMON" → ∃ code, r.promoCommon = some code ∧
    blank code = false ∧ 5 ≤ code.length ∧ code.length ≤ 30⟩,
  ⟨"maxCount", trim r.mode = "COMMON" → ∃ n, r.maxCount = some n ∧ 1 ≤ n⟩,
  ⟨"promoUnique", trim r.mode = "UNIQUE" → ∃ codes, r.promoUnique = some codes ∧ codes ≠ [] ∧
    (∀ code ∈ codes, 3 ≤ code.length ∧ code.length ≤ 30) ∧ codes.Nodup⟩]

/-- The rules on the request of a company, in the order in which they are checked. -/
def rules (r : CreateRequest) (company : Uuid) : List Rule :=
  ⟨"companyId", company ≠ .nil⟩ ::
  ⟨"mode", trim r.mode = "COMMON" ∨ trim r.mode = "UNIQUE"⟩ ::
  (r.content.rules ++ (r.codeRules ++ [r.content.periodRule]))

end CreateRequest

/-! ### Checks on the content -/

theorem lengthWithin_iff {low high : Nat} {s : String} :
    lengthWithin low high s = true ↔ low ≤ s.length ∧ s.length ≤ high := by
  simp [lengthWithin]

/-- A check of an optional text in which a blank one counts as absent. -/
theorem all_blankToNone_iff {s : Option String} (fits : String → Bool) :
    (blankToNone s).all fits = true ↔ ∀ t, s = some t → blank t = true ∨ fits t = true := by
  cases s with
  | none => simp [blankToNone]
  | some t => cases hblank : blank t <;> simp [blankToNone, Option.filter, hblank]

namespace Target

theorem ageFits_iff {age? : Option Int32} :
    ageFits age? = true ↔ ∀ age, age? = some age → 0 ≤ age ∧ age ≤ 100 := by
  simp [ageFits, Option.all_eq_true]

theorem agesOrdered_iff {t : Target} : t.agesOrdered = true ↔
    ∀ low high, t.ageFrom = some low → t.ageUntil = some high → low ≤ high := by
  unfold agesOrdered
  cases t.ageFrom <;> cases t.ageUntil <;> simp

theorem judges_normalCountry (country : Option String) :
    Judges [⟨"target.country", ∀ s, country = some s →
      blank s = true ∨ (trim s).map Char.toUpper ∈ countryCodes⟩] (normalCountry country) := by
  have hrule := all_blankToNone_iff (s := country) fun s =>
    decide ((trim s).map Char.toUpper ∈ countryCodes)
  simp only [decide_eq_true_eq] at hrule
  unfold normalCountry
  cases hgiven : blankToNone country with
  | none =>
    rw [hgiven] at hrule
    exact .of_kept (hrule.mp rfl) none
  | some s =>
    rw [hgiven, Option.all_some, decide_eq_true_eq] at hrule
    dsimp only
    cases hcountry : country? s with
    | some code =>
      have hnamed := names_country_iff.mp hcountry
      exact .of_kept (hrule.mp (hnamed.1.symm ▸ hnamed.2)) (some code)
    | none =>
      refine Judges.of_broken (v := .country) fun hall => ?_
      rw [names_country_iff.mpr ⟨rfl, hrule.mpr hall⟩] at hcountry
      cases hcountry

theorem judges_normalise (t : Target) : Judges t.rules t.normalise := by
  refine (judges_demand ageFits_iff).bind fun _ _ =>
    .merge ((judges_demand ageFits_iff).bind fun _ _ =>
      (judges_demand agesOrdered_iff).bind fun _ _ =>
        (judges_normalCountry t.country).bind fun country _ => ?_) Iff.rfl
  cases hlong : t.categories.find? fun c => 20 < c.length with
  | none => exact .of_kept (by simpa using hlong) _
  | some name =>
    refine Judges.of_broken (v := .category name) fun hall => ?_
    have hname : 20 < name.length := by simpa using List.find?_some hlong
    have := hall name (List.mem_of_find?_eq_some hlong)
    omega

end Target

namespace Content

theorem judges_normalise (c : Content) : Judges c.rules c.normalise := by
  have himage : (∀ url, c.imageUrl = some url →
        blank url = true ∨ url.length ≤ 350 ∧ (Url.ofString? url).isSome = true) ↔
      (blankToNone c.imageUrl).all (lengthWithin 0 350) = true ∧
        (blankToNone c.imageUrl).all (fun s => (Url.ofString? s).isSome) = true := by
    simp only [all_blankToNone_iff, lengthWithin_iff, Nat.zero_le, true_and]
    exact ⟨fun h => ⟨fun url hurl => (h url hurl).imp_right And.left,
        fun url hurl => (h url hurl).imp_right And.right⟩,
      fun h url hurl => by
        rcases h.1 url hurl with hblank | hlength
        · exact Or.inl hblank
        · exact (h.2 url hurl).imp_right fun hvalid => ⟨hlength, hvalid⟩⟩
  have htarget := (Target.judges_normalise c.target).map fun target =>
    { c with imageUrl := blankToNone c.imageUrl, target }
  exact (judges_demand lengthWithin_iff).bind fun _ _ =>
    .merge ((judges_demand Iff.rfl).bind fun _ _ =>
      (judges_demand Iff.rfl).bind fun _ _ => htarget) himage

theorem periodOrdered_iff {c : Content} : c.periodOrdered = true ↔ c.periodRule.kept := by
  unfold periodOrdered periodRule
  cases c.activeFrom <;> cases c.activeUntil <;> simp

/-- Bringing content into the form in which it is stored leaves its period as it is. -/
theorem period_of_normalise {c c' : Content} (h : c.normalise = .ok c') :
    c'.activeFrom = c.activeFrom ∧ c'.activeUntil = c.activeUntil := by
  obtain ⟨u, -, h⟩ := bind_ok h
  obtain ⟨u, -, h⟩ := bind_ok h
  obtain ⟨u, -, h⟩ := bind_ok h
  obtain ⟨target, -, h⟩ := bind_ok h
  obtain rfl := Except.ok.inj h
  exact ⟨rfl, rfl⟩

theorem periodOrdered_normalise_iff {c c' : Content} (h : c.normalise = .ok c') :
    c'.periodOrdered = true ↔ c.periodRule.kept := by
  obtain ⟨hstart, hfinish⟩ := period_of_normalise h
  rw [periodOrdered_iff]
  simp only [periodRule, hstart, hfinish]

end Content

/-! ### Checks on the codes -/

namespace CreateRequest

theorem judges_commonBudget (code : Option String) (maxCount : Option Int64) :
    Judges [⟨"promoCommon", ∃ s, code = some s ∧ blank s = false ∧ 5 ≤ s.length ∧ s.length ≤ 30⟩,
      ⟨"maxCount", ∃ n, maxCount = some n ∧ 1 ≤ n⟩] (commonBudget code maxCount) := by
  unfold commonBudget
  cases hgiven : blankToNone code with
  | none =>
    refine Judges.of_broken (v := .sharedCode) ?_
    rintro ⟨s, rfl, hblank, -⟩
    simp [blankToNone, Option.filter, hblank] at hgiven
  | some s =>
    obtain ⟨rfl, hblank⟩ : code = some s ∧ blank s = false := by
      simpa [blankToNone, Option.filter_eq_some_iff] using hgiven
    have hlength : lengthWithin 5 30 s = true ↔
        ∃ t, some s = some t ∧ blank t = false ∧ 5 ≤ t.length ∧ t.length ≤ 30 := by
      simp [lengthWithin_iff, hblank]
    refine (judges_demand hlength).bind fun _ _ => ?_
    cases maxCount with
    | none => exact Judges.of_broken (v := .maxCount) (by simp)
    | some n =>
      by_cases hn : 1 ≤ n
      · simp only [hn, if_true]
        exact .of_kept ⟨n, rfl, hn⟩ _
      · simp only [hn, if_false]
        exact Judges.of_broken (v := .maxCount) (by simpa using hn)

/-- Codes one by one, given those before them. -/
theorem judges_checkCodes (before codes : List String) :
    Judges [⟨"promoUnique", (∀ code ∈ codes, 3 ≤ code.length ∧ code.length ≤ 30) ∧
      codes.Nodup ∧ ∀ code ∈ codes, code ∉ before⟩] (checkCodes before codes) := by
  induction codes generalizing before with
  | nil => exact .of_kept (by simp) ()
  | cons code codes ih =>
    have hnew : (!before.contains code) = true ↔ code ∉ before := by simp
    have hlength : lengthWithin 3 30 code = true ↔ 3 ≤ code.length ∧ code.length ≤ 30 :=
      lengthWithin_iff
    have hall := (judges_demand (v := .codeLength before.length) hlength).bind fun _ _ =>
      (judges_demand (v := .repeatedCode code) hnew).bind fun _ _ => ih (code :: before)
    refine .merge (.merge hall Iff.rfl) ?_
    simp only [List.nodup_cons, List.mem_cons, not_or]
    grind

theorem judges_uniqueBudget (given : Option (List String)) :
    Judges [⟨"promoUnique", ∃ codes, given = some codes ∧ codes ≠ [] ∧
      (∀ code ∈ codes, 3 ≤ code.length ∧ code.length ≤ 30) ∧ codes.Nodup⟩]
      (uniqueBudget given) := by
  have hsome : (!(given.getD []).isEmpty) = true ↔ given.getD [] ≠ [] := by simp
  have hcodes := (judges_checkCodes [] (given.getD [])).map fun _ =>
    Budget.unique (given.getD [])
  refine .merge ((judges_demand (v := .noCodes) hsome).bind fun _ _ => hcodes) ?_
  cases given with
  | none => simp
  | some codes => simp

/-- The budget for the mode that the request names: the rules of the other mode ask for nothing. -/
theorem judges_budget {r : CreateRequest} {mode : Mode} (hmode : trim r.mode = mode.label) :
    Judges r.codeRules (r.budget mode) := by
  have hasked (label : String) (p : Prop) :
      (trim r.mode = label → p) ↔ (mode.label = label → p) := by rw [hmode]
  simp only [codeRules, hasked]
  cases mode with
  | common =>
    have h : Judges _ (r.budget .common) := judges_commonBudget r.promoCommon r.maxCount
    simpa [Mode.label] using h.append [⟨"promoUnique", True⟩] (by simp)
  | unique =>
    have h : Judges _ (r.budget .unique) := judges_uniqueBudget r.promoUnique
    simpa [Mode.label] using h.prepend [⟨"promoCommon", True⟩, ⟨"maxCount", True⟩] (by simp)

theorem label_of_ofLabel? {s : String} {mode : Mode} (h : Mode.ofLabel? s = some mode) :
    s = mode.label := by
  unfold Mode.ofLabel? at h
  split at h
  · rename_i hs
    cases h
    exact hs
  · split at h
    · rename_i hs
      cases h
      exact hs
    · cases h

/-! ### The whole request -/

/-- A request for a new promotion is judged by its rules, in their order. -/
theorem judges_draft (r : CreateRequest) (company : Uuid) :
    Judges (r.rules company) (r.draft company) := by
  refine (judges_demand (v := .company) decide_eq_true_iff).bind fun _ _ => ?_
  cases hmode : Mode.ofLabel? (trim r.mode) with
  | none =>
    have hneither : ¬ (trim r.mode = "COMMON" ∨ trim r.mode = "UNIQUE") := by
      rintro (heq | heq) <;> simp [heq, Mode.ofLabel?] at hmode
    exact Judges.of_broken (v := .mode) hneither
  | some mode =>
    have hlabel := label_of_ofLabel? hmode
    have hknown : trim r.mode = "COMMON" ∨ trim r.mode = "UNIQUE" := by
      rw [hlabel]
      cases mode with
      | common => exact Or.inl rfl
      | unique => exact Or.inr rfl
    refine Judges.prepend ?_ [⟨"mode", _⟩] (List.forall_mem_singleton.mpr hknown)
    refine (Content.judges_normalise r.content).bind fun content hcontent => ?_
    refine (judges_budget hlabel).bind fun budget _ => ?_
    have hperiod := Content.periodOrdered_normalise_iff hcontent
    exact (judges_demand (v := .period) hperiod).map fun _ => Draft.mk company content budget

/-- A request for a new promotion passes if it keeps all the rules, and is otherwise refused for the
first one that it breaks. -/
theorem refused_for_first_broken_rule (r : CreateRequest) (company : Uuid) :
    ((∃ d, r.draft company = .ok d) ↔ ∀ rule ∈ r.rules company, rule.kept) ∧
      ∀ v, r.draft company = .error v → FirstBroken (r.rules company) v.fieldError.field := by
  have h := r.judges_draft company
  refine ⟨h.isOk_iff, fun v hv => ?_⟩
  rw [hv] at h
  exact h

end CreateRequest

end Promotions
