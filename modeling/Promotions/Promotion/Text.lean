import Promotions.Promotion.Basic
import Promotions.Calendar.Printer
import Promotions.Calendar.Reader
import Promotions.Json.Shape

/-!
Promotions as JSON: how they are written, and how the same text is read back. The text of a
promotion is what the cache keeps; the text of a detail is what callers are answered.
-/

namespace Promotions

open Json Calendar

/-! ### Writing -/

def Uuid.toJson (u : Uuid) : Value := .text (toString u)

def Calendar.Instant.toJson (i : Instant) : Value := .text (toString i)

def Mode.toJson (m : Mode) : Value := .text m.label

/-- A target; what does not restrict is null. -/
def Target.toJson (t : Target) : Value := .object [
  ("ageFrom", .orNull (t.ageFrom.map fun n => .int n.toInt)),
  ("ageUntil", .orNull (t.ageUntil.map fun n => .int n.toInt)),
  ("country", .orNull (t.country.map .text)),
  ("categories", .array (t.categories.map .text))]

def CodeCount.toJson (c : CodeCount) : Value := .object [
  ("code", .text c.code),
  ("activations", .int c.activations.toInt),
  ("maxCount", .int c.maxCount.toInt)]

def Promotion.toJson (p : Promotion) : Value := .object [
  ("id", p.id.toJson),
  ("companyId", p.companyId.toJson),
  ("mode", p.mode.toJson),
  ("description", .text p.content.description),
  ("imageUrl", .orNull (p.content.imageUrl.map .text)),
  ("target", p.content.target.toJson),
  ("activeFrom", .orNull (p.content.activeFrom.map Instant.toJson)),
  ("activeUntil", .orNull (p.content.activeUntil.map Instant.toJson)),
  ("createdAt", p.createdAt.toJson),
  ("codes", .array (p.codes.map CodeCount.toJson))]

def Detail.toJson (d : Detail) : Value := .object [
  ("id", d.promotion.id.toJson),
  ("companyId", d.promotion.companyId.toJson),
  ("companyName", .text d.companyName),
  ("mode", d.promotion.mode.toJson),
  ("description", .text d.promotion.content.description),
  ("imageUrl", .orNull (d.promotion.content.imageUrl.map .text)),
  ("target", d.promotion.content.target.toJson),
  ("activeFrom", .orNull (d.promotion.content.activeFrom.map Instant.toJson)),
  ("activeUntil", .orNull (d.promotion.content.activeUntil.map Instant.toJson)),
  ("createdAt", d.promotion.createdAt.toJson),
  ("codes", .array (d.promotion.codes.map CodeCount.toJson)),
  ("activationsCount", .int d.activationsCount.toInt)]

def Promotion.print (p : Promotion) : String := p.toJson.print

/-! ### Reading -/

def uuid : Reader Uuid := textAs Uuid.ofString?

def instant : Reader Instant := textAs Instant.ofString?

def mode : Reader Mode := constant Mode.ofLabel?

namespace Target

inductive Field where
  | ageFrom | ageUntil | country | categories
  deriving DecidableEq

abbrev Field.Content : Field → Type
  | .ageFrom | .ageUntil => Option Int32
  | .country => Option String
  | .categories => List String

def shape : Shape Field Field.Content Target where
  fields := [.ageFrom, .ageUntil, .country, .categories]
  name
    | .ageFrom => "ageFrom"
    | .ageUntil => "ageUntil"
    | .country => "country"
    | .categories => "categories"
  read
    | .ageFrom, _ | .ageUntil, _ => optional int32
    | .country, _ => optional text
    | .categories, _ => list text
  absent
    | .ageFrom | .ageUntil | .country => .named none
    | .categories => .anywhere []
  assemble f := do
    some ⟨← f .ageFrom, ← f .ageUntil, ← f .country, ← f .categories⟩

end Target

namespace CodeCount

inductive Field where
  | code | activations | maxCount
  deriving DecidableEq

abbrev Field.Content : Field → Type
  | .code => String
  | .activations | .maxCount => Int64

def shape : Shape Field Field.Content CodeCount where
  fields := [.code, .activations, .maxCount]
  name
    | .code => "code"
    | .activations => "activations"
    | .maxCount => "maxCount"
  read
    | .code, _ => text
    | .activations, _ | .maxCount, _ => int64
  absent
    | .code | .activations | .maxCount => .required
  assemble f := do
    some ⟨← f .code, ← f .activations, ← f .maxCount⟩

end CodeCount

namespace Promotion

inductive Field where
  | id | companyId | mode | description | imageUrl | target | activeFrom | activeUntil | createdAt
  | codes
  deriving DecidableEq

abbrev Field.Content : Field → Type
  | .id | .companyId => Uuid
  | .mode => Mode
  | .description => String
  | .imageUrl => Option String
  | .target => Target
  | .activeFrom | .activeUntil => Option Instant
  | .createdAt => Instant
  | .codes => List CodeCount

def shape : Shape Field Field.Content Promotion where
  fields := [.id, .companyId, .mode, .description, .imageUrl, .target, .activeFrom, .activeUntil,
    .createdAt, .codes]
  name
    | .id => "id"
    | .companyId => "companyId"
    | .mode => "mode"
    | .description => "description"
    | .imageUrl => "imageUrl"
    | .target => "target"
    | .activeFrom => "activeFrom"
    | .activeUntil => "activeUntil"
    | .createdAt => "createdAt"
    | .codes => "codes"
  read
    | .id, _ | .companyId, _ => uuid
    | .mode, _ => Promotions.mode
    | .description, _ => text
    | .imageUrl, _ => optional text
    | .target, levels => Target.shape.reader levels
    | .activeFrom, _ | .activeUntil, _ => optional instant
    | .createdAt, _ => instant
    | .codes, levels => list (CodeCount.shape.reader (levels - 1))
  absent
    | .id | .companyId | .mode | .description | .target | .createdAt | .codes => .required
    | .imageUrl | .activeFrom | .activeUntil => .named none
  assemble f := do
    some ⟨← f .id, ← f .companyId, ← f .mode,
      ⟨← f .description, ← f .imageUrl, ← f .target, ← f .activeFrom, ← f .activeUntil⟩,
      ← f .createdAt, ← f .codes⟩

def parse (s : String) : Except Fault Promotion := Json.parse shape.reader s

end Promotion

end Promotions
