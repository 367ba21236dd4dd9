import Mathlib
import Promotions.CacheKey
import Promotions.Memory.Cache
import Promotions.Proofs.Numerals

/-!
Keys of the cache and what is done under them. No two promotions have the same key, and what the
cache does under one key leaves all other keys as they are.
-/

namespace Promotions

/-- The key of a promotion tells its identifier back, which is printed at full length. -/
theorem detailKey_injective {a b : Uuid} (h : detailKey a = detailKey b) : a = b := by
  have htext : toString a = toString b := String.append_right_inj _ |>.mp h
  exact Uuid.toString_injective htext

theorem generationKey_injective {a b : String} (h : generationKey a = generationKey b) : a = b :=
  String.append_left_inj _ |>.mp h

/-- All keys of texts have the same length, which sets them apart from those of generations. -/
theorem length_detailKey (id : Uuid) : (detailKey id).length = 49 := by
  have hprefix : "promo:detail:".length = 13 := by decide
  have hid : (toString id).length = 36 := by
    change (String.ofList id.print).length = 36
    rw [String.length_ofList, Uuid.print, Uuid.length_hyphenate id.length_hexDigits]
  rw [detailKey, String.length_append, hprefix, hid]

/-- No text of a promotion lies where the generation of one is counted: the key is shorter. -/
theorem detailKey_ne_generationKey (a b : Uuid) : detailKey a ≠ generationKey (detailKey b) := by
  intro h
  have hlength := congrArg String.length h
  have hsuffix : ":gen".length = 4 := by decide
  rw [generationKey, String.length_append, length_detailKey, length_detailKey, hsuffix] at hlength
  omega

def CacheRequest.key : CacheRequest → String
  | find key | generation key | fill key _ _ | invalidate key => key

namespace Memory.Cache

/-! ### One key and the others -/

/-- A key that was filtered out is not found, and every other one is found as before. -/
theorem lookup_filter_ne {α : Type} (l : List (String × α)) (key k : String) :
    (l.filter fun e => e.1 ≠ key).lookup k = if k = key then none else l.lookup k := by
  induction l with
  | nil => simp
  | cons e l ih =>
    obtain ⟨x, a⟩ := e
    by_cases hx : x = key
    · subst hx
      by_cases hk : k = x
      · simpa [hk] using ih
      · simpa [List.lookup_cons, hk, beq_eq_false_iff_ne.mpr hk] using ih
    · by_cases hk : k = x
      · subst hk
        simp [hx]
      · simpa [List.lookup_cons, hx, beq_eq_false_iff_ne.mpr hk] using ih

variable (c : Cache) (key k : String)

theorem find?_drop : (c.drop key).find? k = if k = key then none else c.find? k :=
  lookup_filter_ne c.entries key k

theorem find?_put (value : String) :
    (c.put key value).find? k = if k = key then some value else c.find? k := by
  by_cases hk : k = key
  · simp [put, find?, hk]
  · have hdrop := find?_drop c key k
    rw [if_neg hk] at hdrop ⊢
    rw [← hdrop]
    simp [put, find?, List.lookup_cons, beq_eq_false_iff_ne.mpr hk]

theorem generation_nextGeneration :
    (c.nextGeneration key).generation k =
      if k = key then c.generation key + 1 else c.generation k := by
  by_cases hk : k = key
  · simp [nextGeneration, generation, hk]
  · have hothers := lookup_filter_ne c.generations key k
    rw [if_neg hk] at hothers ⊢
    simp only [nextGeneration, generation, List.lookup_cons, beq_eq_false_iff_ne.mpr hk, hothers]

/-! ### A cache that works -/

variable {c}

theorem find_of_working (h : c.failing = false) :
    answer (.find key) c = (.ok (c.find? key), c) := by
  simp [answer, h]

theorem generation_of_working (h : c.failing = false) :
    answer (.generation key) c = (.ok (c.generation key), c) := by
  simp [answer, h]

theorem fill_of_working (h : c.failing = false) (value : String) (n : Nat) :
    answer (.fill key value n) c =
      (.ok (c.generation key = n), if c.generation key = n then c.put key value else c) := by
  by_cases hcurrent : c.generation key = n <;> simp [answer, h, hcurrent]

theorem invalidate_of_working (h : c.failing = false) :
    answer (.invalidate key) c = (.ok (), (c.nextGeneration key).drop key) := by
  simp [answer, h]

variable (c)

theorem eq_generation_of_answer {n : Nat} (h : (answer (.generation key) c).1 = .ok n) :
    n = c.generation key := by
  simp only [answer] at h
  split at h
  · cases h
  · cases h
    rfl

end Memory.Cache

end Promotions
