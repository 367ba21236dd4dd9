/-!
The rules that requests can break, each with the field it is about and its wording.
-/

namespace Promotions

/-- The field that a rule is about, and what is wrong with it. -/
structure FieldError where
  field : String
  message : String
  deriving DecidableEq

/-- The fields of a promotion that are settled when it is created. -/
inductive FixedField where
  | mode | maxCount | promoCommon | promoUnique
  deriving DecidableEq

def FixedField.name : FixedField → String
  | .mode => "mode"
  | .maxCount => "maxCount"
  | .promoCommon => "promoCommon"
  | .promoUnique => "promoUnique"

/-- A rule that a request breaks. -/
inductive Violation where
  /-- The company is the nil identifier. -/
  | company
  /-- The mode is none of the two. -/
  | mode
  /-- The description is too short or too long. -/
  | description
  /-- The image's address is too long. -/
  | imageUrlLength
  /-- The image's address is no address. -/
  | imageUrl
  /-- The lower age is out of range. -/
  | ageFrom
  /-- The upper age is out of range. -/
  | ageUntil
  /-- The upper age is below the lower one. -/
  | ageOrder
  /-- The country is unknown. -/
  | country
  /-- The name of this category is too long. -/
  | category (name : String)
  /-- There is no shared code. -/
  | sharedCode
  /-- The shared code is too short or too long. -/
  | sharedCodeLength
  /-- The shared code has no budget. -/
  | maxCount
  /-- There are no single-use codes. -/
  | noCodes
  /-- The code at this position is too short or too long. -/
  | codeLength (position : Nat)
  /-- This code stands in the list twice. -/
  | repeatedCode (code : String)
  /-- The end does not come after the start. -/
  | period
  /-- A field was sent that never changes. -/
  | fixed (field : FixedField)
  /-- The size of a page is out of range. -/
  | limit
  /-- A page starts before the first promotion. -/
  | offset
  deriving DecidableEq

namespace Violation

def field : Violation → String
  | .company => "companyId"
  | .mode => "mode"
  | .description => "description"
  | .imageUrlLength | .imageUrl => "imageUrl"
  | .ageFrom => "target.ageFrom"
  | .ageUntil | .ageOrder => "target.ageUntil"
  | .country => "target.country"
  | .category _ => "target.categories"
  | .sharedCode | .sharedCodeLength => "promoCommon"
  | .maxCount => "maxCount"
  | .noCodes | .codeLength _ | .repeatedCode _ => "promoUnique"
  | .period => "activeUntil"
  | .fixed f => f.name
  | .limit => "limit"
  | .offset => "offset"

def message : Violation → String
  | .company => "deve ser um UUID válido"
  | .mode => "deve ser COMMON ou UNIQUE"
  | .description => "deve ter entre 10 e 300 caracteres"
  | .imageUrlLength => "deve ter no máximo 350 caracteres"
  | .imageUrl => "deve ser uma URL válida"
  | .ageFrom | .ageUntil => "deve estar entre 0 e 100"
  | .ageOrder => "deve ser maior ou igual a ageFrom"
  | .country => "deve ser um código de país ISO 3166-1 alfa-2"
  | .category name => "categoria '" ++ name ++ "' excede 20 caracteres"
  | .sharedCode => "é obrigatório no modo COMMON"
  | .sharedCodeLength => "deve ter entre 5 e 30 caracteres"
  | .maxCount => "deve ser maior que zero no modo COMMON"
  | .noCodes => "ao menos um código é obrigatório no modo UNIQUE"
  | .codeLength position =>
    "o código na posição " ++ toString position ++ " deve ter entre 3 e 30 caracteres"
  | .repeatedCode code => "código duplicado: " ++ code
  | .period => "deve ser posterior a activeFrom"
  | .fixed _ => "não pode ser alterado depois da criação"
  | .limit => "deve estar entre 1 e 100"
  | .offset => "não pode ser negativo"

def fieldError (v : Violation) : FieldError := ⟨v.field, v.message⟩

end Violation

end Promotions
