import Promotions.Promotion.Text
import Promotions.Request.Basic

/-!
Requests as JSON. Mode, description and target have a value of their own when they are not sent, so
that their absence is left to validation; every other field is optional.
-/

namespace Promotions

open Json Calendar

namespace CreateRequest

inductive Field where
  | mode | promoCommon | promoUnique | maxCount | description | imageUrl | target | activeFrom
  | activeUntil
  deriving DecidableEq

abbrev Field.Content : Field → Type
  | .mode | .description => String
  | .promoCommon | .imageUrl => Option String
  | .promoUnique => Option (List String)
  | .maxCount => Option Int64
  | .target => Target
  | .activeFrom | .activeUntil => Option Instant

def shape : Shape Field Field.Content CreateRequest where
  fields := [.mode, .promoCommon, .promoUnique, .maxCount, .description, .imageUrl, .target,
    .activeFrom, .activeUntil]
  name
    | .mode => "mode"
    | .promoCommon => "promoCommon"
    | .promoUnique => "promoUnique"
    | .maxCount => "maxCount"
    | .description => "description"
    | .imageUrl => "imageUrl"
    | .target => "target"
    | .activeFrom => "activeFrom"
    | .activeUntil => "activeUntil"
  read
    | .mode, _ | .description, _ => text
    | .promoCommon, _ | .imageUrl, _ => optional text
    | .promoUnique, _ => optional (list text)
    | .maxCount, _ => optional int64
    | .target, levels => Target.shape.reader levels
    | .activeFrom, _ | .activeUntil, _ => optional instant
  absent
    | .mode | .description => .anywhere ""
    | .promoCommon | .imageUrl => .named none
    | .promoUnique => .named none
    | .maxCount => .named none
    | .target => .anywhere {}
    | .activeFrom | .activeUntil => .named none
  assemble f := do
    some ⟨← f .mode, ← f .promoCommon, ← f .promoUnique, ← f .maxCount,
      ⟨← f .description, ← f .imageUrl, ← f .target, ← f .activeFrom, ← f .activeUntil⟩⟩

def parse (s : String) : Except Fault CreateRequest := Json.parse shape.reader s

end CreateRequest

namespace UpdateRequest

inductive Field where
  | description | imageUrl | target | activeFrom | activeUntil | mode | maxCount | promoCommon
  | promoUnique
  deriving DecidableEq

abbrev Field.Content : Field → Type
  | .description => String
  | .imageUrl => Option String
  | .target => Target
  | .activeFrom | .activeUntil => Option Instant
  | .mode | .maxCount | .promoCommon | .promoUnique => Option Value

def shape : Shape Field Field.Content UpdateRequest where
  fields := [.description, .imageUrl, .target, .activeFrom, .activeUntil, .mode, .maxCount,
    .promoCommon, .promoUnique]
  name
    | .description => "description"
    | .imageUrl => "imageUrl"
    | .target => "target"
    | .activeFrom => "activeFrom"
    | .activeUntil => "activeUntil"
    | .mode => "mode"
    | .maxCount => "maxCount"
    | .promoCommon => "promoCommon"
    | .promoUnique => "promoUnique"
  read
    | .description, _ => text
    | .imageUrl, _ => optional text
    | .target, levels => Target.shape.reader levels
    | .activeFrom, _ | .activeUntil, _ => optional instant
    | .mode, levels | .maxCount, levels | .promoCommon, levels | .promoUnique, levels =>
      optional (value levels)
  absent
    | .description => .anywhere ""
    | .imageUrl => .named none
    | .target => .anywhere {}
    | .activeFrom | .activeUntil => .named none
    | .mode | .maxCount | .promoCommon | .promoUnique => .named none
  assemble f := do
    some ⟨⟨← f .description, ← f .imageUrl, ← f .target, ← f .activeFrom, ← f .activeUntil⟩,
      ← f .mode, ← f .maxCount, ← f .promoCommon, ← f .promoUnique⟩

def parse (s : String) : Except Fault UpdateRequest := Json.parse shape.reader s

end UpdateRequest

end Promotions
