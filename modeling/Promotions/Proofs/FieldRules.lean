import Promotions.Proofs.Refusals
import Promotions.Supply

/-!
Requests for new promotions and requests for changes are held to the same rules. What they share is
the content, and both validators check it in the same way, though one of them checks the codes in
between and the other one asks afterwards whether a field was sent that never changes. So as long as
nothing is wrong with the company, the mode and the codes, content passes either validator or none,
in the same form or with the same field and message.
-/

namespace Promotions

open Text

/-! ### What both validators check -/

/-- Content in the form in which it is stored, or the first rule that it breaks, that on its period
being the last one. -/
def Content.checked (c : Content) : Except Violation Content := do
  let content ← c.normalise
  demand content.periodOrdered .period
  .ok content

/-- Content is judged by the rules on its fields, the one on the period last. -/
theorem Content.judges_checked (c : Content) : Judges (c.rules ++ [c.periodRule]) c.checked := by
  refine c.judges_normalise.bind fun content hcontent => ?_
  have hperiod := periodOrdered_normalise_iff hcontent
  exact (judges_demand (v := .period) hperiod).map fun _ => content

theorem Content.isOk_checked_iff (c : Content) :
    c.checked.isOk = true ↔ ∀ rule ∈ c.rules ++ [c.periodRule], rule.kept := by
  rw [← c.judges_checked.isOk_iff]
  cases c.checked <;> simp [Except.isOk, Except.toBool]

/-- A draft has the content that was checked, if the company, the mode and the codes pass. -/
theorem CreateRequest.map_content_draft {r : CreateRequest} {company : Uuid} {mode : Mode}
    {b : Budget} (hcompany : company ≠ .nil) (hmode : Mode.ofLabel? (trim r.mode) = some mode)
    (hbudget : r.budget mode = .ok b) :
    (r.draft company).map Draft.content = r.content.checked := by
  have hknown : demand (company ≠ .nil) .company = .ok () := by simp [demand, hcompany]
  rw [draft, hknown, hmode]
  change Except.map _ (r.content.normalise >>= fun content => _) = _
  rw [Content.checked]
  cases r.content.normalise with
  | error v => rfl
  | ok content =>
    change Except.map _ (r.budget mode >>= fun budget => _) = _
    rw [hbudget]
    change Except.map _ (demand content.periodOrdered .period >>= fun _ => _) =
      (demand content.periodOrdered .period >>= fun _ => _)
    cases demand content.periodOrdered .period <;> rfl

/-! ### Requests that come to the same -/

/-- Both requests are refused, for the same field and with the same message, or both pass, with the
same content. -/
inductive ComeToSame : Except Violation Draft → Except Violation Content → Prop
  | refused {v w : Violation} (h : v.fieldError = w.fieldError) : ComeToSame (.error v) (.error w)
  | passed {d : Draft} {c : Content} (h : d.content = c) : ComeToSame (.ok d) (.ok c)

/-- Two checks with the same outcome come to the same. -/
theorem ComeToSame.of_map_eq {x : Except Violation Draft} {y : Except Violation Content}
    (h : x.map Draft.content = y) : ComeToSame x y := by
  subst h
  cases x with
  | error v => exact .refused rfl
  | ok d => exact .passed rfl

namespace UpdateRequest

/-- The fields that never change, in the order in which they are looked at. -/
def fixedFields : List FixedField := [.mode, .maxCount, .promoCommon, .promoUnique]

variable {u : UpdateRequest}

/-- If any fixed field was sent, one of them is the first. -/
theorem exists_find?_sent (h : ∃ f, u.sent f = true) :
    ∃ f, fixedFields.find? u.sent = some f := by
  obtain ⟨f, hf⟩ := h
  have hmem : f ∈ fixedFields := by cases f <;> decide
  exact Option.isSome_iff_exists.mp (List.find?_isSome.mpr ⟨f, hmem, hf⟩)

/-- The changes that are asked for are the content that was checked, if nothing else was sent. -/
theorem changes_eq (u : UpdateRequest) :
    u.changes = u.content.checked >>= fun content =>
      match fixedFields.find? u.sent with
      | some field => .error (.fixed field)
      | none => .ok content := by
  rw [changes, Content.checked]
  cases u.content.normalise with
  | error v => rfl
  | ok content =>
    change (demand content.periodOrdered .period >>= fun _ => _) =
      (demand content.periodOrdered .period >>= fun _ => _) >>= _
    cases demand content.periodOrdered .period <;> rfl

/-- Without fixed fields a change is held to the rules on its content. -/
theorem changes_of_unsent (h : ∀ f, u.sent f = false) : u.changes = u.content.checked := by
  have hnone : fixedFields.find? u.sent = none := List.find?_eq_none.mpr fun f _ => by simp [h f]
  rw [changes_eq, hnone]
  cases u.content.checked <;> rfl

/-- A field that never changes is refused, unless the content is refused before. -/
theorem changes_of_sent {f : FixedField} (h : fixedFields.find? u.sent = some f) :
    u.changes = u.content.checked >>= fun _ => .error (.fixed f) := by
  rw [changes_eq, h]

end UpdateRequest

/-- What owners ask for is held to the same rules in both kinds of requests. If nothing is wrong
with the company, the mode and the codes of a request for a new promotion, it comes to the same as
one that asks for a change to the same content and to nothing else. And a request for a change is
refused if it sends a field that never changes: for the first such field, if the content is as it
should be. -/
theorem held_to_same_rules :
    (∀ (r : CreateRequest) (u : UpdateRequest) (company : Uuid), u.content = r.content →
      company ≠ .nil → trim r.mode = "COMMON" ∨ trim r.mode = "UNIQUE" →
      (∀ rule ∈ r.codeRules, rule.kept) → (∀ f, u.sent f = false) →
        ComeToSame (r.draft company) u.changes) ∧
    ∀ u : UpdateRequest, (∃ f, u.sent f = true) → ∃ v, u.changes = .error v ∧
      ((∀ rule ∈ u.content.rules ++ [u.content.periodRule], rule.kept) →
        ∃ before f after,
          [FixedField.mode, .maxCount, .promoCommon, .promoUnique] = before ++ f :: after ∧
            (∀ g ∈ before, u.sent g = false) ∧ u.sent f = true ∧
            v.fieldError = ⟨f.name, "não pode ser alterado depois da criação"⟩) := by
  constructor
  · intro r u company hsame hcompany hmode hcodes hunsent
    obtain ⟨mode, hmode⟩ : ∃ mode, Mode.ofLabel? (trim r.mode) = some mode := by
      rcases hmode with hlabel | hlabel
      · exact ⟨.common, by rw [hlabel]; rfl⟩
      · exact ⟨.unique, by rw [hlabel]; rfl⟩
    have hjudged := CreateRequest.judges_budget (CreateRequest.label_of_ofLabel? hmode)
    obtain ⟨b, hbudget⟩ := hjudged.isOk_iff.mpr hcodes
    apply ComeToSame.of_map_eq
    rw [CreateRequest.map_content_draft hcompany hmode hbudget,
      UpdateRequest.changes_of_unsent hunsent, hsame]
  · intro u hsent
    obtain ⟨f, hf⟩ := UpdateRequest.exists_find?_sent hsent
    have hchanges := UpdateRequest.changes_of_sent hf
    cases hchecked : u.content.checked with
    | error v =>
      rw [hchecked] at hchanges
      refine ⟨v, hchanges, fun hkept => ?_⟩
      have hok := u.content.isOk_checked_iff.mpr hkept
      rw [hchecked] at hok
      cases hok
    | ok c =>
      rw [hchecked] at hchanges
      obtain ⟨hfirst, before, after, hfields, hbefore⟩ := List.find?_eq_some_iff_append.mp hf
      exact ⟨.fixed f, hchanges, fun _ => ⟨before, f, after, hfields,
        fun g hg => by simpa using hbefore g hg, hfirst, rfl⟩⟩

def toBrazil : Content := ⟨"Dez por cento", some " ", { country := some " br " }, none, none⟩

def newToBrazil : CreateRequest := ⟨" UNIQUE", none, some ["ONE", "TWO"], none, toBrazil⟩

def changeToBrazil (maxCount promoUnique : Option Json.Value) : UpdateRequest :=
  ⟨toBrazil, none, maxCount, none, promoUnique⟩

/-- Both requests take the country in capitals, and the second one is refused for the first fixed
field that is sent with it. -/
theorem taken_to_brazil_alike :
    ComeToSame (newToBrazil.draft (Supply.idAt 7)) (changeToBrazil none none).changes ∧
      (newToBrazil.draft (Supply.idAt 7)).toOption.map (·.content.target.country) =
        some (some "BR") ∧
      ∃ v, (changeToBrazil (some (.bool true)) (some (.array []))).changes = .error v ∧
        v.fieldError = ⟨"maxCount", "não pode ser alterado depois da criação"⟩ := by
  obtain ⟨hsame, hsent⟩ := held_to_same_rules
  refine ⟨?_, by decide +kernel, ?_⟩
  · have hunique : trim newToBrazil.mode = "UNIQUE" := by decide +kernel
    have hcommon : trim newToBrazil.mode ≠ "COMMON" := by rw [hunique]; decide
    have hcodes : ∀ rule ∈ newToBrazil.codeRules, rule.kept := by
      simp only [CreateRequest.codeRules, List.forall_mem_cons]
      exact ⟨fun h => absurd h hcommon, fun h => absurd h hcommon,
        fun _ => ⟨_, rfl, by decide⟩, List.forall_mem_nil _⟩
    apply hsame newToBrazil (changeToBrazil none none) (Supply.idAt 7) rfl (by decide +kernel)
      (Or.inr hunique) hcodes
    intro f
    cases f <;> rfl
  · have hkept := toBrazil.isOk_checked_iff.mp (by decide +kernel)
    obtain ⟨v, hv, hfirst⟩ := hsent (changeToBrazil (some (.bool true)) (some (.array [])))
      ⟨.maxCount, rfl⟩
    obtain ⟨before, f, after, hfields, hbefore, hf, herror⟩ := hfirst hkept
    -- The mode was not sent, and the field after it was.
    rcases before with _ | ⟨g, _ | ⟨g', before⟩⟩
    · obtain ⟨rfl, -⟩ := List.cons.inj hfields
      cases hf
    · obtain ⟨-, hfields⟩ := List.cons.inj hfields
      obtain ⟨rfl, -⟩ := List.cons.inj hfields
      exact ⟨v, hv, herror⟩
    · obtain ⟨-, hfields⟩ := List.cons.inj hfields
      obtain ⟨rfl, -⟩ := List.cons.inj hfields
      cases hbefore .maxCount (by simp)

end Promotions
