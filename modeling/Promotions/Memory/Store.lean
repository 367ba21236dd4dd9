import Promotions.Failure
import Promotions.Listing
import Promotions.Promotion.Draft

/-!
A store in memory. Promotions are kept with their codes; no two have the same identifier.
-/

namespace Promotions.Memory

open Calendar

structure Store where
  promotions : List Promotion := []

namespace Store

def find? (s : Store) (id : Uuid) : Option Promotion := s.promotions.find? fun p => p.id = id

def remove (s : Store) (id : Uuid) : Store := ⟨s.promotions.filter fun p => p.id ≠ id⟩

def insert (s : Store) (p : Promotion) : Store := ⟨(s.remove p.id).promotions ++ [p]⟩

def modify (s : Store) (id : Uuid) (change : Promotion → Promotion) : Store :=
  ⟨s.promotions.map fun p => if p.id = id then change p else p⟩

/-- The promotions that a filter accepts, in the order of a listing. -/
def listing (s : Store) (filter : Filter) (key : SortKey) : List Promotion :=
  (s.promotions.filter filter.accepts).mergeSort key.before

def list (s : Store) (filter : Filter) (page : Page) (key : SortKey) : List Promotion :=
  page.cut (s.listing filter key)

def count (s : Store) (filter : Filter) : Nat := (s.promotions.filter filter.accepts).length

/-- Nothing if the company owns the promotion, and otherwise why it may not change it. -/
def owned (s : Store) (id company : Uuid) : Except Failure Unit :=
  match s.find? id with
  | none => .error .promotionNotFound
  | some p => if p.companyId = company then .ok () else .error .permissionDenied

def update (s : Store) (id company : Uuid) (content : Content) : Except Failure Unit × Store :=
  match s.owned id company with
  | .error f => (.error f, s)
  | .ok () => (.ok (), s.modify id fun p => { p with content })

def delete (s : Store) (id company : Uuid) : Except Failure Unit × Store :=
  match s.owned id company with
  | .error f => (.error f, s)
  | .ok () => (.ok (), s.remove id)

end Store

def hasRoom (c : CodeCount) : Bool := c.activations < c.maxCount

def redeemed (c : CodeCount) : CodeCount := { c with activations := c.activations + 1 }

/-- The next code to hand out: the first that has activations left. -/
def nextCode? (codes : List CodeCount) : Option String := (codes.find? hasRoom).map (·.code)

/-- The codes after the next one has been handed out. -/
def redeemNext : List CodeCount → List CodeCount
  | [] => []
  | c :: cs => if hasRoom c then redeemed c :: cs else c :: redeemNext cs

/-- Activates a promotion, with a gate of state `γ` that is asked about the code to hand out. -/
def Store.activate {γ : Type} (s : Store) (refuse : Uuid → String → γ → Bool × γ) (id : Uuid)
    (g : γ) : Except Failure String × Store × γ :=
  match s.find? id with
  | none => (.error .promotionNotFound, s, g)
  | some p =>
    match nextCode? p.codes with
    | none => (.error .exhausted, s, g)
    | some code =>
      let (refused, g) := refuse id code g
      if refused then (.error .rejectedByGate, s, g)
      else (.ok code, s.modify id fun p => { p with codes := redeemNext p.codes }, g)

end Promotions.Memory
