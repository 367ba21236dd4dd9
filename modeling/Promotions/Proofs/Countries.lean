import Mathlib.Data.List.DropRight
import Mathlib.Data.List.Forall2
import Mathlib.Data.Set.Basic
import Promotions.Http.ListQuery
import Promotions.Listing
import Promotions.Supply

/-!
A listing for given countries asks for a set of names. It does not matter in what order the names
are given, how often, with what white space around them or in which case, nor what else is given
that is blank. A name more lets more promotions through, save for the first one: without any name
all promotions of the company are asked for.
-/

namespace Promotions

namespace Text

/-! ### White space around a text -/

theorem trimLeft_append {blanks : List Char} (h : ∀ c ∈ blanks, isBlank c = true)
    (cs : List Char) : trimLeft (blanks ++ cs) = trimLeft cs :=
  List.dropWhile_append_of_pos h

theorem trimRight_append {blanks : List Char} (h : ∀ c ∈ blanks, isBlank c = true)
    (cs : List Char) : trimRight (cs ++ blanks) = trimRight cs := by
  have hreverse : ∀ c ∈ blanks.reverse, isBlank c = true :=
    fun c hc => h c (List.mem_reverse.mp hc)
  rw [trimRight, List.reverse_append, List.dropWhile_append_of_pos hreverse, ← trimRight]

/-- Blanks at both ends make no difference to a trimmed text. -/
theorem trim_surrounded {front back : List Char} (hfront : ∀ c ∈ front, isBlank c = true)
    (hback : ∀ c ∈ back, isBlank c = true) (s : String) :
    trim (String.ofList (front ++ s.toList ++ back)) = trim s := by
  rw [trim, String.toList_ofList, List.append_assoc, trimLeft_append hfront, trim]
  congr 1
  cases hleft : trimLeft s.toList with
  | nil =>
    -- Without a character that is not blank nothing is left of either text.
    have hnone : trimLeft (s.toList ++ back) = trimLeft back := by
      rw [trimLeft_append]
      exact List.dropWhile_eq_nil_iff.mp hleft
    rw [hnone, trimLeft, List.dropWhile_eq_nil_iff.mpr hback]
  | cons c cs =>
    have hsome : trimLeft (s.toList ++ back) = c :: cs ++ back := by
      rw [trimLeft] at hleft ⊢
      rw [List.dropWhile_append, hleft]
      rfl
    rw [hsome, trimRight_append hback]

/-- A text is what is left of it after trimming, with white space around it. -/
theorem exists_surroundings (s : String) : ∃ front back,
    (∀ c ∈ front, isBlank c = true) ∧ (∀ c ∈ back, isBlank c = true) ∧
      s = String.ofList (front ++ (trim s).toList ++ back) := by
  refine ⟨s.toList.takeWhile isBlank, ((trimLeft s.toList).reverse.takeWhile isBlank).reverse,
    fun c => List.mem_takeWhile_imp,
    fun c hc => List.mem_takeWhile_imp (List.mem_reverse.mp hc), ?_⟩
  have hright : trimRight (trimLeft s.toList) ++
      ((trimLeft s.toList).reverse.takeWhile isBlank).reverse = trimLeft s.toList := by
    rw [trimRight, ← List.reverse_append, List.takeWhile_append_dropWhile, List.reverse_reverse]
  rw [trim, String.toList_ofList, List.append_assoc, hright, trimLeft,
    List.takeWhile_append_dropWhile, String.ofList_toList]

theorem trim_trim (s : String) : trim (trim s) = trim s := by
  obtain ⟨front, back, hfront, hback, hs⟩ := exists_surroundings s
  have hsame := trim_surrounded hfront hback (trim s)
  rw [← hs] at hsame
  exact hsame.symm

/-! ### Letters of either case -/

/-- What holds of every character in ASCII and its small letter, and of every other character and
itself, holds of every character and its small letter in ASCII. -/
theorem toLower_cases {P : Char → Char → Prop}
    (hascii : ∀ n < 128, P (Char.ofNat n) (Char.ofNat n).toLower) (hself : ∀ c, P c c) (c : Char) :
    P c c.toLower := by
  by_cases hc : c.toNat < 128
  · have h := hascii c.toNat hc
    rwa [Char.ofNat_toNat] at h
  · have hother : ¬ (c.val ≥ 'A'.val ∧ c.val ≤ 'Z'.val) := fun h =>
      hc (Nat.lt_of_le_of_lt (UInt32.le_iff_toNat_le.mp h.2) (by decide))
    have hsame : c.toLower = c := dif_neg hother
    rw [hsame]
    exact hself c

theorem isBlank_toLower (c : Char) : isBlank c.toLower = isBlank c :=
  toLower_cases (P := fun c d => isBlank d = isBlank c) (by decide) (fun _ => rfl) c

theorem isCased_toLower (c : Char) : isCased c.toLower = isCased c :=
  toLower_cases (P := fun c d => isCased d = isCased c) (by decide) (fun _ => rfl) c

theorem isCaseIgnorable_toLower (c : Char) : isCaseIgnorable c.toLower = isCaseIgnorable c :=
  toLower_cases (P := fun c d => isCaseIgnorable d = isCaseIgnorable c) (by decide) (fun _ => rfl) c

theorem lowerChar_toLower (c : Char) : lowerChar c.toLower = lowerChar c :=
  toLower_cases (P := fun c d => lowerChar d = lowerChar c) (by decide) (fun _ => rfl) c

theorem meetsCased_toLower (cs : List Char) :
    meetsCased (cs.map Char.toLower) = meetsCased cs := by
  have hskipped : isCaseIgnorable ∘ Char.toLower = isCaseIgnorable :=
    funext isCaseIgnorable_toLower
  rw [meetsCased, List.dropWhile_map, hskipped, meetsCased]
  cases cs.dropWhile isCaseIgnorable with
  | nil => rfl
  | cons c cs => exact isCased_toLower c

/-- The letters of ASCII can be written small beforehand, those around a character as well as the
character itself. -/
theorem lowerBetween_toLower (before : List Char) (c : Char) (after : List Char) :
    lowerBetween (before.map Char.toLower) c.toLower (after.map Char.toLower) =
      lowerBetween before c after := by
  -- The letters that are not lowered by themselves are none of ASCII.
  have hsigma : c.toLower = '\u03A3' ↔ c = '\u03A3' :=
    toLower_cases (P := fun c d => d = '\u03A3' ↔ c = '\u03A3') (by decide) (fun _ => Iff.rfl) c
  have hdotted : c.toLower = '\u0130' ↔ c = '\u0130' :=
    toLower_cases (P := fun c d => d = '\u0130' ↔ c = '\u0130') (by decide) (fun _ => Iff.rfl) c
  simp only [lowerBetween, hsigma, hdotted, meetsCased_toLower, lowerChar_toLower]

/-- Texts that differ in the case of letters of ASCII have the same small letters. The induction
carries what stands in front. -/
theorem lowerFrom_toLower (before cs : List Char) :
    lowerFrom (before.map Char.toLower) (cs.map Char.toLower) = lowerFrom before cs := by
  induction cs generalizing before with
  | nil => rfl
  | cons c cs ih =>
    have hrest := ih (c :: before)
    rw [List.map_cons] at hrest
    rw [List.map_cons, lowerFrom, lowerFrom, lowerBetween_toLower, hrest]

def SameButCase (s t : String) : Prop := s.toList.map Char.toLower = t.toList.map Char.toLower

theorem SameButCase.lowerCase_eq {s t : String} (h : SameButCase s t) :
    lowerCase s = lowerCase t := by
  rw [lowerCase, ← lowerFrom_toLower [] s.toList, h, lowerFrom_toLower, lowerCase]

theorem SameButCase.trim {s t : String} (h : SameButCase s t) : SameButCase (trim s) (trim t) := by
  have hblank : isBlank ∘ Char.toLower = isBlank := funext isBlank_toLower
  have htrim (s : String) : (Text.trim s).toList.map Char.toLower =
      trimRight (trimLeft (s.toList.map Char.toLower)) := by
    simp only [Text.trim, trimLeft, trimRight, String.toList_ofList, ← List.map_reverse,
      List.dropWhile_map, hblank]
  rw [SameButCase, htrim s, htrim t, h]

/-- A text in small letters is empty only if the text itself is. -/
theorem lowerCase_eq_empty_iff {s : String} : lowerCase s = "" ↔ s = "" := by
  have hnone (before cs : List Char) : lowerFrom before cs = [] ↔ cs = [] := by
    cases cs with
    | nil => exact Iff.rfl
    | cons c cs =>
      have hsome : lowerBetween before c cs ≠ [] := by
        unfold lowerBetween
        split
        · exact List.cons_ne_nil _ _
        · split <;> exact List.cons_ne_nil _ _
      simp [lowerFrom, hsome]
  rw [lowerCase, String.ofList_eq_empty_iff, hnone, String.toList_eq_nil_iff]

end Text

open Text Http

/-! ### The names that are asked for -/

/-- The names of countries that a list asks for, in small letters. -/
def namesOf (countries : List String) : Set String :=
  {name | ∃ e ∈ countries, trim e ≠ "" ∧ lowerCase (trim e) = name}

/-- Ways to write the same name: with white space around it, and with letters of ASCII in the other
case. -/
inductive Rewritten (e : String) : String → Prop
  | surrounded {front back : List Char} (hfront : ∀ c ∈ front, isBlank c = true)
      (hback : ∀ c ∈ back, isBlank c = true) :
      Rewritten e (String.ofList (front ++ e.toList ++ back))
  | recased {f : String} (h : SameButCase e f) : Rewritten e f

/-- However a name is rewritten, its small letters are the same. -/
theorem Rewritten.name_eq {e f : String} (h : Rewritten e f) :
    lowerCase (trim f) = lowerCase (trim e) := by
  cases h with
  | surrounded hfront hback => rw [trim_surrounded hfront hback]
  | recased h => exact h.trim.lowerCase_eq.symm

/-- A list asks for no names if nothing is left of any of its entries after trimming. -/
theorem namesOf_eq_empty_iff {countries : List String} :
    namesOf countries = ∅ ↔ ∀ e ∈ countries, trim e = "" := by
  rw [Set.eq_empty_iff_forall_notMem]
  constructor
  · intro h e he
    by_contra hblank
    exact h _ ⟨e, he, hblank, rfl⟩
  · rintro h name ⟨e, he, hblank, -⟩
    exact hblank (h e he)

theorem namesOf_mono {xs ys : List String} (h : ∀ e ∈ xs, e ∈ ys) : namesOf xs ⊆ namesOf ys := by
  rintro name ⟨e, he, hname⟩
  exact ⟨e, h e he, hname⟩

namespace Filter

variable {company : Uuid} {countries xs ys : List String} {p : Promotion}

/-- A filter has the names that the list asks for, whatever their order and number. -/
theorem mem_countries_of {name : String} :
    name ∈ (of company countries).countries ↔ name ∈ namesOf countries := by
  have hsome (e : String) : lowerCase (trim e) ≠ "" ↔ trim e ≠ "" :=
    not_congr lowerCase_eq_empty_iff
  simp only [of, List.mem_filter, List.mem_map, Bool.not_eq_true', ← Bool.not_eq_true,
    String.isEmpty_iff]
  constructor
  · rintro ⟨⟨e, he, rfl⟩, hname⟩
    exact ⟨e, he, (hsome e).mp hname, rfl⟩
  · rintro ⟨e, he, hblank, rfl⟩
    exact ⟨⟨e, he, rfl⟩, (hsome e).mpr hblank⟩

/-- Which promotions a filter lets through: nothing counts but the names. -/
theorem accepts_of_iff : (of company countries).accepts p = true ↔
    p.companyId = company ∧ (namesOf countries = ∅ ∨ p.content.target.country = none ∨
      ∃ c, p.content.target.country = some c ∧ lowerCase c ∈ namesOf countries) := by
  have hnone : (of company countries).countries = [] ↔ namesOf countries = ∅ := by
    simp only [List.eq_nil_iff_forall_not_mem, mem_countries_of, Set.eq_empty_iff_forall_notMem]
  simp only [accepts, Bool.and_eq_true, decide_eq_true_eq, Bool.or_eq_true, List.isEmpty_iff, hnone]
  refine and_congr Iff.rfl (or_congr Iff.rfl ?_)
  cases p.content.target.country with
  | none => simp
  | some c => simp [mem_countries_of]

/-- Filters that ask for the same names accept the same promotions. -/
theorem accepts_congr (h : namesOf xs = namesOf ys) (p : Promotion) :
    (of company xs).accepts p = (of company ys).accepts p := by
  rw [Bool.eq_iff_iff, accepts_of_iff, accepts_of_iff, h]

/-- Names more let more through, if there are names already. -/
theorem accepts_mono (hsome : namesOf xs ≠ ∅) (hsub : namesOf xs ⊆ namesOf ys)
    (h : (of company xs).accepts p = true) : (of company ys).accepts p = true := by
  obtain ⟨hcompany, hcountry⟩ := accepts_of_iff.mp h
  refine accepts_of_iff.mpr ⟨hcompany, Or.inr ?_⟩
  rcases hcountry with hnone | huntargeted | ⟨c, hc, hname⟩
  · exact absurd hnone hsome
  · exact Or.inl huntargeted
  · exact Or.inr ⟨c, hc, hsub hname⟩

/-- A filter does not hang on how its names are written. -/
theorem of_rewritten (h : List.Forall₂ Rewritten xs ys) : of company xs = of company ys := by
  have hnames : (xs.map fun e => lowerCase (trim e)) = ys.map fun e => lowerCase (trim e) := by
    induction h with
    | nil => rfl
    | cons hhead _ ih => rw [List.map_cons, List.map_cons, hhead.name_eq, ih]
  rw [of, of, hnames]

/-- A blank entry makes no difference to the filter. -/
theorem of_blank {e : String} (he : trim e = "") (before after : List String) :
    of company (before ++ e :: after) = of company (before ++ after) := by
  have hempty : (lowerCase (trim e)).isEmpty = true := by
    rw [he]
    rfl
  simp [of, hempty]

/-- Names that are trimmed and kept only if something is left of them are the same names. -/
theorem of_trimmed (countries : List String) :
    of company ((countries.map trim).filter fun c => !c.isEmpty) = of company countries := by
  induction countries with
  | nil => rfl
  | cons e countries ih =>
    by_cases he : trim e = ""
    · simpa [he] using ih.trans (of_blank he [] countries).symm
    · have hkept : ((e :: countries).map trim).filter (fun c => !c.isEmpty) =
          trim e :: (countries.map trim).filter fun c => !c.isEmpty := by simp [he]
      rw [hkept]
      simp only [of, mk.injEq, true_and] at ih ⊢
      rw [List.map_cons, List.map_cons, trim_trim, List.filter_cons, List.filter_cons, ih]

/-- The countries of a query are those that its pieces name. -/
theorem of_countryList (q : ListQuery) : of company q.countryList =
    of company ((pieces (· = ',') (q.countries.getD "").toList).map String.ofList) := by
  rw [← of_trimmed (List.map _ _), List.map_map]
  rfl

end Filter

/-- A listing asks for a set of names. It shows the promotions of the company that have no country
or one that some entry names, where an entry that is blank names nothing, and without any names it
shows all of the company's. So only the set of names counts: entries may be given in any order and
any number of times, with white space around them, in either case, and blank ones among them. A name
that is added to others takes nothing away. And a query asks for what its pieces between commas
name. -/
theorem countries_are_asked_for_by_name :
    (∀ (company : Uuid) (countries : List String) (p : Promotion),
      (Filter.of company countries).accepts p = true ↔ p.companyId = company ∧
        ((∀ e ∈ countries, trim e = "") ∨ p.content.target.country = none ∨
          ∃ c, p.content.target.country = some c ∧
            ∃ e ∈ countries, trim e ≠ "" ∧ lowerCase c = lowerCase (trim e))) ∧
    (∀ (company : Uuid) (xs ys : List String) (p : Promotion),
      namesOf xs = namesOf ys ∨ (∀ e, e ∈ xs ↔ e ∈ ys) ∨ List.Forall₂ Rewritten xs ys →
        (Filter.of company xs).accepts p = (Filter.of company ys).accepts p) ∧
    (∀ (company : Uuid) (before after : List String) (e : String) (p : Promotion), trim e = "" →
      (Filter.of company (before ++ e :: after)).accepts p =
        (Filter.of company (before ++ after)).accepts p) ∧
    (∀ (company : Uuid) (before after : List String) (e : String) (p : Promotion),
      (∃ x ∈ before ++ after, trim x ≠ "") →
      (Filter.of company (before ++ after)).accepts p = true →
        (Filter.of company (before ++ e :: after)).accepts p = true) ∧
    ∀ (company : Uuid) (q : ListQuery), Filter.of company q.countryList =
      Filter.of company ((pieces (· = ',') (q.countries.getD "").toList).map String.ofList) := by
  refine ⟨fun company countries p => ?_, ?_, ?_, ?_, fun company q => Filter.of_countryList q⟩
  · rw [Filter.accepts_of_iff, namesOf_eq_empty_iff]
    simp only [namesOf, Set.mem_ofPred_eq, eq_comm]
  · rintro company xs ys p (hnames | hsame | hrewritten)
    · exact Filter.accepts_congr hnames p
    · exact Filter.accepts_congr ((namesOf_mono fun e => (hsame e).mp).antisymm
        (namesOf_mono fun e => (hsame e).mpr)) p
    · rw [Filter.of_rewritten hrewritten]
  · intro company before after e p he
    rw [Filter.of_blank he]
  · rintro company before after e p ⟨x, hx, hname⟩ haccepts
    refine Filter.accepts_mono (fun hnone => hname (namesOf_eq_empty_iff.mp hnone x hx)) ?_ haccepts
    refine namesOf_mono fun y hy => List.mem_append.mpr ?_
    exact (List.mem_append.mp hy).imp_right (List.mem_cons_of_mem e)

def madeFor (country : String) : Promotion where
  id := Supply.idAt 0
  companyId := Supply.idAt 7
  mode := .unique
  content := ⟨"Dez por cento", none, { country := some country }, none, none⟩
  createdAt := Supply.timeAt 0
  codes := []

/-- A country is found by any spelling of its name, and blank names do not disturb. -/
theorem brazil_named_in_many_ways :
    (Filter.of (Supply.idAt 7) ["br", "RU"]).accepts (madeFor "BR") =
        (Filter.of (Supply.idAt 7) ["Br", " RU\t"]).accepts (madeFor "BR") ∧
      (Filter.of (Supply.idAt 7) ["br", " ", "RU"]).accepts (madeFor "BR") =
        (Filter.of (Supply.idAt 7) ["br", "RU"]).accepts (madeFor "BR") ∧
      (Filter.of (Supply.idAt 7) ["br", "RU"]).accepts (madeFor "BR") = true := by
  obtain ⟨-, hsame, hblank, hmore, -⟩ := countries_are_asked_for_by_name
  have hrewritten : List.Forall₂ Rewritten ["br", "RU"] ["Br", " RU\t"] := by
    refine .cons (.recased rfl) (.cons ?_ .nil)
    exact @Rewritten.surrounded "RU" [' '] ['\t'] (List.forall_mem_singleton.mpr rfl)
      (List.forall_mem_singleton.mpr rfl)
  refine ⟨hsame _ _ _ _ (Or.inr (Or.inr hrewritten)), ?_, ?_⟩
  · exact hblank (Supply.idAt 7) ["br"] ["RU"] " " (madeFor "BR") (by decide +kernel)
  · exact hmore (Supply.idAt 7) ["br"] [] "RU" (madeFor "BR")
      ⟨"br", List.mem_cons_self, by decide +kernel⟩ (by decide +kernel)

/-- A blank entry does not name a country without a name, though its name is the same. -/
theorem blank_entry_names_nothing :
    ¬ ((Filter.of (Supply.idAt 7) ["", "ru"]).accepts (madeFor "") = true ↔
      (madeFor "").companyId = Supply.idAt 7 ∧
        ((∀ e ∈ ["", "ru"], trim e = "") ∨ (madeFor "").content.target.country = none ∨
          ∃ c, (madeFor "").content.target.country = some c ∧
            ∃ e ∈ ["", "ru"], lowerCase c = lowerCase (trim e))) := by
  intro h
  have hrefused : (Filter.of (Supply.idAt 7) ["", "ru"]).accepts (madeFor "") = false := by
    decide +kernel
  have haccepted := h.mpr ⟨rfl, Or.inr (Or.inr ⟨"", rfl, "", List.mem_cons_self, rfl⟩)⟩
  rw [hrefused] at haccepted
  cases haccepted

end Promotions
