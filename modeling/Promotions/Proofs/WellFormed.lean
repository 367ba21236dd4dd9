import Promotions.Proofs.Invariant
import Promotions.Proofs.Terms

/-!
Every promotion in the store keeps the rules, after any schedule of calls, whatever they ask for,
whatever the gate decides and whatever fails. A promotion comes in as a draft that has passed, its
content is replaced by content that has passed, and an activation changes nothing but a count.
-/

namespace Promotions.Memory

/-! ### The rules in a step -/

/-- Whatever an operation does to the promotions, they keep the rules. -/
theorem World.All.lawful_of_effect {α : Type} {w w' : World} {o : Operation} {st : Stage α}
    (h : w.All Promotion.Lawful) (hlayout : w.Layout) (hgrows : w.Grows w')
    (he : Effect o.Poses w st w') : w'.All Promotion.Lawful := by
  have hcounted (hpools : w'.pools = w.pools) : w'.All Promotion.Lawful :=
    h.of_grows (fun _ _ => Promotion.Lawful.of_terms) hlayout hgrows hpools
  cases he with
  | kept hpools _ => exact hcounted hpools
  | counted _ => exact hcounted rfl
  | created hasked =>
    obtain ⟨company, r, -, hdraft, rfl⟩ := hasked
    exact h.insert hlayout ((CreateRequest.wellFormed_of_draft hdraft).promotion _ _)
  | rewritten hasked _ =>
    obtain ⟨r, -, hchanges⟩ := hasked
    refine h.rewrite fun p hp _ => ?_
    exact ⟨(h p hp).company, UpdateRequest.wellFormed_of_changes hchanges, (h p hp).codes⟩
  | removed _ _ => exact h.remove _

/-! ### The rules in a run -/

namespace System

variable {g : Nat → Int} {s s' : System}

/-- Promotions that keep the rules still keep them after a move. -/
theorem Sound.lawful_next (h : s.Sound g) (hposes : s.Poses)
    (hlawful : s.shared.world.All Promotion.Lawful) {m : Move} (hm : s.next m = some s') :
    s'.shared.world.All Promotion.Lawful := by
  have hgrows := h.grows_next hm
  cases happens_of_next hm with
  | advance hc hstep =>
    have heffect := Effect.of_steps (hposes _ (List.mem_of_getElem? hc)) (Stage.steps_of_step hstep)
    exact hlawful.lawful_of_effect h.layout hgrows heffect
  | abandon _ _ =>
    exact hlawful.of_grows (fun _ _ => Promotion.Lawful.of_terms) h.layout hgrows (pools_letGo ..)
  | begin _ | failCache _ | failCodes _ => exact hlawful

/-- Promotions that keep the rules at first keep them in every run. -/
theorem Sound.lawful_run (h : s.Sound g) (hposes : s.Poses)
    (hlawful : s.shared.world.All Promotion.Lawful) {ms : List Move} (hrun : s.run ms = some s') :
    s'.shared.world.All Promotion.Lawful :=
  h.induction_along hposes hrun hlawful fun _ _ _ _ ht htposes hbefore hm _ =>
    ht.lawful_next htposes hbefore hm

/-- Every stored promotion is well-formed. From an empty store, with any cache, whatever calls are
made with whatever requests, in whatever order their steps are taken, whatever the gate decides,
whatever the directory answers, whenever the cache fails or the store takes in no codes, and
whichever calls are given up: each promotion in the store keeps all the rules on promotions. Its
country is one of 249, each a code of two capital letters. -/
theorem stored_promotions_wellFormed {cache : Cache} {ms : List Move} {s : System}
    (hrun : (start {} cache).run ms = some s) :
    (∀ p ∈ s.store.promotions, p.WellFormed) ∧ countryCodes.length = 249 ∧ countryCodes.Nodup ∧
      ∀ code ∈ countryCodes, code.length = 2 ∧ code.toList.all Char.isUpper := by
  have hstart := sound_start {} cache
  have hlawful : s.shared.world.All Promotion.Lawful :=
    hstart.lawful_run (poses_start {} cache) (fun p hp => by cases hp) hrun
  have hbounded := hstart.bounded_run (bounded_start cache fun p hp => by cases hp) hrun
  refine ⟨fun p hp => ⟨hlawful p hp, fun c hc => ?_⟩, length_countryCodes, countryCodes_nodup,
    capitals_of_mem_countryCodes⟩
  obtain ⟨pool, -, rfl⟩ := List.mem_map.mp hp
  obtain ⟨r, -, hr⟩ := List.mem_filterMap.mp hc
  obtain ⟨hlow, hhigh⟩ := hbounded r c hr
  exact ⟨Int64.le_iff_toInt_le.mpr hlow, Int64.le_iff_toInt_le.mpr hhigh⟩

def sharedCode : CreateRequest where
  mode := "COMMON"
  promoCommon := some "WELCOME"
  promoUnique := none
  maxCount := some 2
  content := ⟨"Dez por cento", none, { country := some " br " }, none, none⟩

def grownUpsOnly : UpdateRequest where
  content := ⟨"Dez por cento", some " ", { ageFrom := some 18 }, none, none⟩
  mode := none
  maxCount := none
  promoCommon := none
  promoUnique := none

/-- A promotion is created, changed by its owner while the cache fails, and activated. -/
def changedAndActivated : List Move :=
  [.begin (.create (Supply.idAt 1) sharedCode),
    .begin (.update (Supply.idAt 0) (Supply.idAt 1) grownUpsOnly),
    .begin (.activate (Supply.idAt 0)), .failCache true] ++
    turns [0, 0, 1, 1, 2, 2, 2, 2, 2, 2, 2]

/-- The promotion is well-formed after the change and one activation. -/
theorem changed_and_activated_wellFormed : ∃ s,
    (start {} {}).run changedAndActivated = some s ∧
      (s.store.promotions.map fun p => p.codes) = [[⟨"WELCOME", 1, 2⟩]] ∧
      ∀ p ∈ s.store.promotions, p.WellFormed := by
  obtain ⟨s, hs⟩ := Option.isSome_iff_exists.mp
    (by decide +kernel : ((start {} {}).run changedAndActivated).isSome)
  have hcodes : ((start {} {}).run changedAndActivated).map
      (fun s => s.store.promotions.map fun p => p.codes) = some [[⟨"WELCOME", 1, 2⟩]] := by
    decide +kernel
  rw [hs] at hcodes
  exact ⟨s, hs, Option.some.inj hcodes, (stored_promotions_wellFormed hs).1⟩

end System

end Promotions.Memory
