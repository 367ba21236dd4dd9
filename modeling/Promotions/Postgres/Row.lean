import Promotions.Promotion.Text

/-!
Promotions as rows of the database: the columns of the aggregated query, with the codes of a
promotion gathered into one of them.
-/

namespace Promotions.Postgres

open Calendar

/-- A row of the aggregated query, column by column. -/
structure Row where
  id : Uuid
  companyId : Uuid
  description : String
  imageUrl : Option String
  activeFrom : Option Instant
  activeUntil : Option Instant
  createdAt : Instant
  mode : Mode
  targetAgeFrom : Option Int32
  targetAgeUntil : Option Int32
  targetCountry : Option String
  targetCategories : List String
  codes : List CodeCount

def Row.promotion (r : Row) : Promotion where
  id := r.id
  companyId := r.companyId
  mode := r.mode
  content := {
    description := r.description
    imageUrl := r.imageUrl
    target := ⟨r.targetAgeFrom, r.targetAgeUntil, r.targetCountry, r.targetCategories⟩
    activeFrom := r.activeFrom
    activeUntil := r.activeUntil }
  createdAt := r.createdAt
  codes := r.codes

def Row.of (p : Promotion) : Row where
  id := p.id
  companyId := p.companyId
  description := p.content.description
  imageUrl := p.content.imageUrl
  activeFrom := p.content.activeFrom
  activeUntil := p.content.activeUntil
  createdAt := p.createdAt
  mode := p.mode
  targetAgeFrom := p.content.target.ageFrom
  targetAgeUntil := p.content.target.ageUntil
  targetCountry := p.content.target.country
  targetCategories := p.content.target.categories
  codes := p.codes

end Promotions.Postgres
