import Promotions.CacheKey
import Promotions.Promotion.Text
import Promotions.Request.Validation
import Promotions.Service.Ask

/-!
The service. Requests are validated before anything is stored. A promotion is read through the
cache, which is never needed: whatever goes wrong with it, the store is asked. A text is put into
the cache only under the generation that was current before the store was read, so that a change
made in between leaves no stale text behind. Changes declare the text stale afterwards.
-/

namespace Promotions.Service

open Promotions.Action

def create (company : Uuid) (r : CreateRequest) : Action (Except Failure Uuid) :=
  match r.draft company with
  | .error v => return .error (.ofViolation v)
  | .ok draft => do
    let (id, now) ← mint
    let stored ← store (.create id now draft draft.budget.pool)
    return stored.map fun _ => id

/-- Promotions with the names of their companies. Names that are known are not asked for again, and
the first one that cannot be found out ends the listing. -/
def named (known : List (Uuid × String)) : List Promotion → Action (Except Failure (List Detail))
  | [] => return .ok []
  | p :: ps =>
    match known.lookup p.companyId with
    | some name => do
      let rest ← named known ps
      return rest.map (p.detail name :: ·)
    | none => do
      match ← companyName p.companyId with
      | .error f => return .error f
      | .ok name =>
        let rest ← named ((p.companyId, name) :: known) ps
        return rest.map (p.detail name :: ·)

/-- A page of the promotions of a company for the given countries. -/
def list (company : Uuid) (countries : List String) (page : Page) (key : SortKey) :
    Action (Except Failure (List Detail)) := do
  match ← store (.list (.of company countries) page key) with
  | .error f => return .error f
  | .ok ps => named [] ps

def count (company : Uuid) (countries : List String) : Action (Except Failure Int) :=
  store (.count (.of company countries))

def cached (answer : Except Failure (Option String)) : Option Promotion :=
  match answer with
  | .ok (some s) => (Promotion.parse s).toOption
  | _ => none

/-- A promotion from the store, put into the cache. -/
def loadStored (id : Uuid) : Action (Except Failure Promotion) := do
  let generation ← cache (.generation (detailKey id))
  match ← store (.find id) with
  | .error f => return .error f
  | .ok none => return .error .promotionNotFound
  | .ok (some p) =>
    match generation with
    | .error _ => return .ok p
    | .ok g =>
      let _ ← cache (.fill (detailKey id) p.print g)
      return .ok p

/-- A promotion from the cache, or else from the store. -/
def load (id : Uuid) : Action (Except Failure Promotion) := do
  match cached (← cache (.find (detailKey id))) with
  | some p => return .ok p
  | none => loadStored id

/-- A promotion as its owner sees it. Other companies are refused, wherever it was read. -/
def get (id company : Uuid) : Action (Except Failure Detail) := do
  match ← load id with
  | .error f => return .error f
  | .ok p =>
    if p.companyId = company then
      let name ← companyName p.companyId
      return name.map p.detail
    else return .error .permissionDenied

def invalidate (id : Uuid) : Action Unit := do
  let _ ← cache (.invalidate (detailKey id))
  return ()

/-- Ends a change that the store has answered: what has changed is stale in the cache. -/
def settle {α : Type} (id : Uuid) (answer : Except Failure α) : Action (Except Failure α) := do
  match answer with
  | .error f => return .error f
  | .ok a =>
    invalidate id
    return .ok a

def update (id company : Uuid) (r : UpdateRequest) : Action (Except Failure Unit) :=
  match r.changes with
  | .error v => return .error (.ofViolation v)
  | .ok content => do settle id (← store (.update id company content))

def delete (id company : Uuid) : Action (Except Failure Unit) := do
  settle id (← store (.delete id company))

/-- Activates a promotion: the answer is the code that was handed out. -/
def activate (id : Uuid) : Action (Except Failure String) := do
  settle id (← store (.activate id))

end Promotions.Service
