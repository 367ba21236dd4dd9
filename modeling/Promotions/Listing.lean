import Promotions.Promotion.Basic
import Promotions.Request.Violation
import Promotions.Text.Blank
import Promotions.Text.LowerCase

/-!
Listings: which promotions of a company are asked for, in what order, and which page of them.
-/

namespace Promotions

open Text Calendar

inductive SortKey where
  | createdAt
  | activeFrom
  | activeUntil
  deriving DecidableEq

namespace SortKey

def label : SortKey → String
  | .createdAt => "created_at"
  | .activeFrom => "active_from"
  | .activeUntil => "active_until"

/-- The key that a parameter names, in any letter case and with blanks around it. The moment of
creation stands for everything else. -/
def ofParameter (value : Option String) : SortKey :=
  match value.map fun s => (trim s).map Char.toLower with
  | some s =>
    if s = "active_from" || s = "activefrom" then .activeFrom
    else if s = "active_until" || s = "activeuntil" then .activeUntil
    else .createdAt
  | none => .createdAt

def moment? (key : SortKey) (p : Promotion) : Option Instant :=
  match key with
  | .createdAt => some p.createdAt
  | .activeFrom => p.content.activeFrom
  | .activeUntil => p.content.activeUntil

/-- Whether a promotion comes before another, or is the same: promotions without a moment come
first, then later ones, and identifiers decide between equals. -/
def before (key : SortKey) (p q : Promotion) : Bool :=
  match key.moment? p, key.moment? q with
  | none, none => p.id.toNat ≤ q.id.toNat
  | none, some _ => true
  | some _, none => false
  | some a, some b => if a = b then p.id.toNat ≤ q.id.toNat else b < a

end SortKey

structure Filter where
  companyId : Uuid
  /-- Countries in small letters; if there are none, the country does not matter. -/
  countries : List String
  deriving DecidableEq

namespace Filter

/-- A company's promotions for the given countries. Blank ones are left out. -/
def of (company : Uuid) (countries : List String) : Filter :=
  ⟨company, (countries.map fun c => lowerCase (trim c)).filter fun c => !c.isEmpty⟩

/-- Whether a promotion is asked for. One without a country is meant for every country. -/
def accepts (f : Filter) (p : Promotion) : Bool :=
  p.companyId = f.companyId
    && (f.countries.isEmpty
      || p.content.target.country.all fun c => f.countries.contains (lowerCase c))

end Filter

structure Page where
  limit : Nat
  offset : Nat
  deriving DecidableEq

namespace Page

/-- A page from 1 to 100 promotions long, from a position that is not negative on. Ten promotions
from the first one on are asked for when nothing is said. -/
def of? (limit offset : Option Int64) : Except Violation Page :=
  let limit := limit.getD 10
  let offset := offset.getD 0
  if !(1 ≤ limit && limit ≤ 100) then .error .limit
  else if offset < 0 then .error .offset
  else .ok ⟨limit.toInt.toNat, offset.toInt.toNat⟩

def cut {α : Type} (page : Page) (xs : List α) : List α := (xs.drop page.offset).take page.limit

end Page

end Promotions
