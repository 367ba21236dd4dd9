import Promotions.Gate
import Promotions.Postgres.Repository

/-!
A database that answers from a script. The statements that control transactions succeed, save for
one kind that may be made to fail; every other statement takes the next reply. Once the replies are
used up, nothing is found and nothing affected.
-/

namespace Promotions.Postgres

open Json Calendar

inductive ScriptedReply where
  | rows (rows : List (List Value))
  | affected (count : Nat)
  | error (text : String)

structure Script where
  replies : List ScriptedReply := []
  /-- The text of the statements that fail. -/
  fails : Option String := none
  gate : ScriptedGate := {}
  /-- What was sent, the latest first. -/
  sent : List Statement := []

/-! ### Columns -/

def nullable {α : Type} (read : Value → Option α) : Value → Option (Option α)
  | .null => some none
  | v => (read v).map some

def textColumn : Value → Option String
  | .text s => some s
  | _ => none

def integerColumn : Value → Option Int
  | .number n 0 => some n
  | _ => none

def textsColumn : Value → Option (List String)
  | .array vs => vs.mapM textColumn
  | _ => none

def uuidColumn (v : Value) : Option Uuid := (textColumn v).bind Uuid.ofString?

/-- A column that holds a moment, to the microsecond. -/
def momentColumn (v : Value) : Option Instant := do
  (← Instant.ofString? (← textColumn v)).toMicros?

def codesColumn (v : Value) : Option (List CodeCount) :=
  (Json.parse (fun levels => Json.list (CodeCount.shape.reader (levels - 1))) v.print).toOption

def promotionRow : List Value → Option Row
  | [id, companyId, description, imageUrl, activeFrom, activeUntil, createdAt, mode, ageFrom,
      ageUntil, country, categories, codes] => do
    some ⟨← uuidColumn id, ← uuidColumn companyId, ← textColumn description,
      ← nullable textColumn imageUrl, ← nullable momentColumn activeFrom,
      ← nullable momentColumn activeUntil, ← momentColumn createdAt,
      ← (textColumn mode).bind Mode.ofLabel?,
      (← nullable integerColumn ageFrom).map Int32.ofInt,
      (← nullable integerColumn ageUntil).map Int32.ofInt,
      ← nullable textColumn country, ← textsColumn categories, ← codesColumn codes⟩
  | _ => none

def countRow : List Value → Option Int
  | [n] => integerColumn n
  | _ => none

def ownerRow : List Value → Option Uuid
  | [u] => uuidColumn u
  | _ => none

def codeRow : List Value → Option (Int × String)
  | [id, code] => do some (← integerColumn id, ← textColumn code)
  | _ => none

def existsRow : List Value → Option Bool
  | [.bool b] => some b
  | _ => none

/-! ### Replies -/

namespace ScriptedReply

def asCount : ScriptedReply → Except StorageCause Nat
  | rows rs => .ok rs.length
  | affected n => .ok n
  | error text => .error (.database text)

def asRows {α : Type} (read : List Value → Option α) : ScriptedReply → Except StorageCause (List α)
  | rows rs =>
    match rs.mapM read with
    | some as => .ok as
    | none => .error (.protocol "unexpected columns")
  | affected _ => .ok []
  | error text => .error (.database text)

def toReply (r : ScriptedReply) : (s : Statement) → Except StorageCause s.Reply
  | .begin | .commit | .rollback => .ok ()
  | .insertPromotion _ _ _ | .insertCodes _ _ | .updatePromotion _ _ | .deletePromotion _
  | .redeemCode _ => r.asCount
  | .selectPromotion _ | .selectPromotions _ _ _ => r.asRows promotionRow
  | .countPromotions _ => r.asRows countRow
  | .lockOwner _ => r.asRows ownerRow
  | .selectFreeCode _ _ => r.asRows codeRow
  | .promotionExists _ => r.asRows existsRow

end ScriptedReply

def Statement.isControl : Statement → Bool
  | .begin | .commit | .rollback => true
  | _ => false

namespace Script

/-- The database's answer, and its state after it. -/
def answer (q : Question) (s : Script) : q.Answer × Script :=
  match q with
  | .gate id code =>
    let (refused, gate) := s.gate.decide id code
    (refused, { s with gate })
  | .send st =>
    let s := { s with sent := st :: s.sent }
    if st.isControl then
      if s.fails = some st.text then (.error (.database "scripted failure"), s)
      else ((ScriptedReply.affected 0).toReply st, s)
    else
      match s.replies with
      | [] => ((ScriptedReply.affected 0).toReply st, s)
      | r :: replies => (r.toReply st, { s with replies })

def perform {α : Type} (s : Script) (e : Exchange α) : α × Script :=
  e.run (fun q s => s.answer q) s

end Script

/-- The answers of a pool of connections that is closed. -/
def closed (q : Question) (u : Unit) : q.Answer × Unit :=
  match q with
  | .gate _ _ => (false, u)
  | .send _ => (.error .poolClosed, u)

end Promotions.Postgres
