import Promotions.Promotion.Text
import Promotions.Proofs.Instants
import Promotions.Proofs.Printing
import Promotions.Service.Basic

/-!
Promotions read back from their texts. Every promotion, whatever its strings, numbers and moments
are, is the one that its text is parsed as, so a text that is kept for a promotion stands for it.
-/

namespace Promotions

open Json Calendar

/-! ### Parts of a promotion -/

theorem prints_uuid (u : Uuid) : Prints uuid u.toJson.render u :=
  prints_textAs (Uuid.ofString?_toString u)

theorem prints_instant (i : Instant) : Prints instant i.toJson.render i :=
  prints_textAs (Instant.ofString?_toString i)

theorem prints_mode (m : Mode) : Prints Promotions.mode m.toJson.render m := by
  have hlabel : Mode.ofLabel? m.label = some m := by cases m <;> decide
  exact prints_constant hlabel

theorem head_text_ne_null (s : String) : (Value.text s).render.head? ≠ some 'n' := by
  simp [Value.render, quote]

theorem prints_optionalInt32 (o : Option Int32) :
    Prints (optional int32) (Value.orNull (o.map fun n => .int n.toInt)).render o :=
  prints_optional o (fun n _ => prints_int32 n) fun n => head_int_ne_null n.toInt

theorem prints_optionalText (o : Option String) :
    Prints (optional text) (Value.orNull (o.map .text)).render o :=
  prints_optional o (fun s _ => prints_text s) head_text_ne_null

theorem prints_optionalInstant (o : Option Instant) :
    Prints (optional instant) (Value.orNull (o.map Instant.toJson)).render o :=
  prints_optional o (fun i _ => prints_instant i) fun i => head_text_ne_null (toString i)

namespace Target

def field (t : Target) : (f : Field) → Field.Content f
  | .ageFrom => t.ageFrom
  | .ageUntil => t.ageUntil
  | .country => t.country
  | .categories => t.categories

def fieldJson (t : Target) : Field → Value
  | .ageFrom => .orNull (t.ageFrom.map fun n => .int n.toInt)
  | .ageUntil => .orNull (t.ageUntil.map fun n => .int n.toInt)
  | .country => .orNull (t.country.map .text)
  | .categories => .array (t.categories.map .text)

theorem named_shape : shape.Named := by
  refine ⟨by decide, fun f => ?_⟩
  cases f <;> decide

/-- A target is read back from the text that is written for it. -/
theorem prints (t : Target) (levels : Nat) :
    Prints (shape.reader (levels + 1)) t.toJson.render t := by
  have hvalues : ∀ f, Prints (shape.read f levels) (t.fieldJson f).render (t.field f) := by
    intro f
    cases f with
    | ageFrom => exact prints_optionalInt32 t.ageFrom
    | ageUntil => exact prints_optionalInt32 t.ageUntil
    | country => exact prints_optionalText t.country
    | categories => exact prints_list t.categories fun s _ => prints_text s
  exact Shape.prints_object named_shape hvalues rfl

end Target

namespace CodeCount

def field (c : CodeCount) : (f : Field) → Field.Content f
  | .code => c.code
  | .activations => c.activations
  | .maxCount => c.maxCount

def fieldJson (c : CodeCount) : Field → Value
  | .code => .text c.code
  | .activations => .int c.activations.toInt
  | .maxCount => .int c.maxCount.toInt

theorem named_shape : shape.Named := by
  refine ⟨by decide, fun f => ?_⟩
  cases f <;> decide

/-- A count is read back from the text that is written for it. -/
theorem prints (c : CodeCount) (levels : Nat) :
    Prints (shape.reader (levels + 1)) c.toJson.render c := by
  have hvalues : ∀ f, Prints (shape.read f levels) (c.fieldJson f).render (c.field f) := by
    intro f
    cases f with
    | code => exact prints_text c.code
    | activations => exact prints_int64 c.activations
    | maxCount => exact prints_int64 c.maxCount
  exact Shape.prints_object named_shape hvalues rfl

end CodeCount

namespace Promotion

def field (p : Promotion) : (f : Field) → Field.Content f
  | .id => p.id
  | .companyId => p.companyId
  | .mode => p.mode
  | .description => p.content.description
  | .imageUrl => p.content.imageUrl
  | .target => p.content.target
  | .activeFrom => p.content.activeFrom
  | .activeUntil => p.content.activeUntil
  | .createdAt => p.createdAt
  | .codes => p.codes

def fieldJson (p : Promotion) : Field → Value
  | .id => p.id.toJson
  | .companyId => p.companyId.toJson
  | .mode => p.mode.toJson
  | .description => .text p.content.description
  | .imageUrl => .orNull (p.content.imageUrl.map .text)
  | .target => p.content.target.toJson
  | .activeFrom => .orNull (p.content.activeFrom.map Instant.toJson)
  | .activeUntil => .orNull (p.content.activeUntil.map Instant.toJson)
  | .createdAt => p.createdAt.toJson
  | .codes => .array (p.codes.map CodeCount.toJson)

theorem named_shape : shape.Named := by
  refine ⟨by decide, fun f => ?_⟩
  cases f <;> decide

/-- Arrays and objects may lie inside one another thrice in a promotion. -/
theorem prints (p : Promotion) (levels : Nat) :
    Prints (shape.reader (levels + 3)) p.toJson.render p := by
  have hvalues : ∀ f, Prints (shape.read f (levels + 2)) (p.fieldJson f).render (p.field f) := by
    intro f
    cases f with
    | id => exact prints_uuid p.id
    | companyId => exact prints_uuid p.companyId
    | mode => exact prints_mode p.mode
    | description => exact prints_text p.content.description
    | imageUrl => exact prints_optionalText p.content.imageUrl
    | target => exact p.content.target.prints (levels + 1)
    | activeFrom => exact prints_optionalInstant p.content.activeFrom
    | activeUntil => exact prints_optionalInstant p.content.activeUntil
    | createdAt => exact prints_instant p.createdAt
    | codes => exact prints_list p.codes fun c _ => c.prints levels
  exact Shape.prints_object named_shape hvalues rfl

/-- The text of a promotion is parsed as that promotion. -/
theorem parse_print (p : Promotion) : Promotion.parse p.print = .ok p := by
  have hchars : p.print.toList = p.toJson.render := String.toList_ofList
  apply parse_of_prints
  rw [hchars]
  exact p.prints 124

/-- No two promotions have the same text. -/
theorem print_injective : Function.Injective print := by
  intro p q h
  have hread := p.parse_print
  rw [h, q.parse_print] at hread
  exact (Except.ok.inj hread).symm

/-- A promotion that is kept as its text comes back as it was, whatever its strings, its numbers and
its moments are: from the text alone, from a cache that holds it, and as the only promotion that has
this text. Its moments are any that can be read at all. -/
theorem kept_text_gives_promotion_back (p : Promotion) :
    Promotion.parse p.print = .ok p ∧ Service.cached (.ok (some p.print)) = some p ∧
      (∀ q : Promotion, q.print = p.print → q = p) ∧
      ∀ i : Instant, ∃ s, Instant.ofString? s = some i := by
  refine ⟨p.parse_print, ?_, fun q h => print_injective h, fun i => ?_⟩
  · simp only [Service.cached, p.parse_print]
    rfl
  · exact ⟨toString i, Instant.ofString?_toString i⟩

end Promotion

end Promotions
