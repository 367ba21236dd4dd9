import Promotions.Postgres.Statement
import Promotions.Service.Ask

/-!
The store in the database, as dialogues with it. Everything that changes rows happens in a
transaction. A transaction that was begun ends with a commit that succeeded or with a rollback: one
that is given up is rolled back, and so is one whose commit failed.
-/

namespace Promotions.Postgres

open Calendar

/-- What is asked on the way: the reply to a statement, or the gate's decision about a code. -/
inductive Question where
  | send (s : Statement)
  | gate (id : Uuid) (code : String)

abbrev Question.Answer : Question → Type
  | .send s => Except StorageCause s.Reply
  | .gate _ _ => Bool

abbrev Exchange (α : Type) := Dialogue Question Question.Answer α

namespace Exchange

def send (s : Statement) : Exchange (Except StorageCause s.Reply) := .ask (.send s) .done

def refused (id : Uuid) (code : String) : Exchange Bool := .ask (.gate id code) .done

/-- The reply to a statement that is a named step of an operation. -/
def step (name : String) (s : Statement) : Exchange (Except Failure s.Reply) := do
  return (← send s).mapError (.storage name)

end Exchange

open Exchange

/-- How the work of a transaction ends. -/
inductive Verdict (α : Type) where
  /-- Its changes are to stay. -/
  | keep (a : α)
  /-- Its changes are to go. -/
  | giveUp (f : Failure)
  /-- Its changes are gone already. -/
  | gone (f : Failure)

/-- Carries out work in a transaction. The names of the transaction's own steps start with that of
the operation. -/
def transaction {α : Type} (operation : String) (work : Exchange (Verdict α)) :
    Exchange (Except Failure α) := do
  match ← step (operation ++ ".begin") .begin with
  | .error f => return .error f
  | .ok () =>
    match ← work with
    | .gone f => return .error f
    | .giveUp f =>
      let _ ← send .rollback
      return .error f
    | .keep a =>
      match ← step (operation ++ ".commit") .commit with
      | .ok () => return .ok a
      | .error f =>
        let _ ← send .rollback
        return .error f

namespace Repository

def create (id : Uuid) (createdAt : Instant) (draft : Draft) (codes : List NewCode) :
    Exchange (Except Failure Unit) :=
  transaction "promo_repo.create" do
    match ← step "promo_repo.create.promo" (.insertPromotion id createdAt draft) with
    | .error f => return .giveUp f
    | .ok _ =>
      match ← step "promo_repo.create.codes" (.insertCodes id codes) with
      | .error f => return .giveUp f
      | .ok (inserted : Nat) =>
        if inserted = codes.length then return .keep ()
        else return .giveUp (.internal ("promo_repo.create: " ++ toString inserted ++ " de "
          ++ toString codes.length ++ " códigos inseridos"))

def find (id : Uuid) : Exchange (Except Failure (Option Promotion)) := do
  let rows ← step "promo_repo.get_by_id" (.selectPromotion id)
  return rows.map fun rows => rows.head?.map Row.promotion

def list (filter : Filter) (page : Page) (key : SortKey) :
    Exchange (Except Failure (List Promotion)) := do
  let rows ← step "promo_repo.list" (.selectPromotions filter page key)
  return rows.map fun rows => rows.map Row.promotion

/-- The first of the rows of which there must be one. -/
def single {α : Type} (name : String) (rows : Except Failure (List α)) : Except Failure α :=
  match rows with
  | .error f => .error f
  | .ok [] => .error (.storage name .rowNotFound)
  | .ok (a :: _) => .ok a

def count (filter : Filter) : Exchange (Except Failure Int) := do
  let rows ← step "promo_repo.count" (.countPromotions filter)
  return single "promo_repo.count" rows

/-- Nothing if the owner is the company, and otherwise why the company may not change the
promotion. -/
def ensureOwner (owner : Option Uuid) (company : Uuid) : Except Failure Unit :=
  match owner with
  | none => .error .promotionNotFound
  | some owner => if owner = company then .ok () else .error .permissionDenied

/-- Carries out a change in a transaction, once it is sure that the company owns the promotion. -/
def asOwner (operation : String) (id company : Uuid) (change : Statement) :
    Exchange (Except Failure Unit) :=
  transaction operation do
    match ← step (operation ++ ".lock") (.lockOwner id) with
    | .error f => return .giveUp f
    | .ok (owners : List Uuid) =>
      match ensureOwner owners.head? company with
      | .error f => return .giveUp f
      | .ok () =>
        match ← step operation change with
        | .error f => return .giveUp f
        | .ok _ => return .keep ()

def update (id company : Uuid) (content : Content) : Exchange (Except Failure Unit) :=
  asOwner "promo_repo.update" id company (.updatePromotion id content)

def delete (id company : Uuid) : Exchange (Except Failure Unit) :=
  asOwner "promo_repo.delete" id company (.deletePromotion id)

/-- A code that has activations left, locked. Only when all such codes are locked by others are
they waited for. -/
def lockCode (id : Uuid) : Exchange (Except Failure (Option (Int × String))) := do
  match ← step "promo_repo.activate.select" (.selectFreeCode id false) with
  | .error f => return .error f
  | .ok ((row : Int × String) :: _) => return .ok (some row)
  | .ok [] =>
    let rows ← step "promo_repo.activate.select_wait" (.selectFreeCode id true)
    return rows.map fun rows => rows.head?

def whyNone (id : Uuid) : Exchange Failure := do
  let rows ← step "promo_repo.activate.exists" (.promotionExists id)
  match single "promo_repo.activate.exists" rows with
  | .error f => return f
  | .ok there => return if there then .exhausted else .promotionNotFound

/-- Hands out a code: it is locked, the gate is asked about it, and its activation is counted. If
the gate refuses, the transaction is rolled back at once. -/
def activate (id : Uuid) : Exchange (Except Failure String) :=
  transaction "promo_repo.activate" do
    match ← lockCode id with
    | .error f => return .giveUp f
    | .ok none => return .giveUp (← whyNone id)
    | .ok (some (row, code)) =>
      if ← refused id code then
        match ← step "promo_repo.activate.rollback" .rollback with
        | .error f => return .giveUp f
        | .ok () => return .gone .rejectedByGate
      else
        match ← step "promo_repo.activate.increment" (.redeemCode row) with
        | .error f => return .giveUp f
        | .ok (updated : Nat) =>
          if updated = 1 then return .keep code
          else return .giveUp (.internal ("promo_repo.activate: código " ++ toString row
            ++ " mudou sob trava"))

/-- The dialogue that answers a question to the store. -/
def answer : (r : StoreRequest) → Exchange r.Answer
  | .create id createdAt draft codes => create id createdAt draft codes
  | .find id => find id
  | .list filter page key => list filter page key
  | .count filter => count filter
  | .update id company content => update id company content
  | .delete id company => delete id company
  | .activate id => activate id

end Repository

end Promotions.Postgres
