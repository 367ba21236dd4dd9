import Promotions.Memory.Store
import Promotions.Postgres.Repository

/-!
A database with row locks, as far as activations and deletions use it, and sessions that use it at
the same time. Statements work on what is committed, and on what their own transaction has changed.
A lock on a row is held by one session until its transaction ends. A statement that goes along rows
goes along them one by one, and others may come in between: a row that another session has locked is
passed over or waited for, and it is looked at as it is by then. Changes take effect all at once
when their transaction is committed, and none of them does if it is rolled back. Any statement may
fail; it has changed nothing then, and its transaction may be lost with it.
-/

namespace Promotions.Postgres

open Memory (hasRoom redeemed)

/-! ### Tables -/

structure CodeRow where
  number : Int
  promotion : Uuid
  count : CodeCount
  deriving DecidableEq

/-- The promotions with their owners, and the codes in the order of their numbers. -/
structure Tables where
  owners : List (Uuid × Uuid)
  codes : List CodeRow
  distinct : (owners.map (·.1)).Nodup
  ordered : codes.Pairwise fun a b => a.number < b.number

inductive Change where
  /-- A code has one more activation. -/
  | redeem (number : Int)
  /-- A promotion goes, and its codes with it. -/
  | remove (id : Uuid)
  deriving DecidableEq

def CodeRow.redeem (row : CodeRow) : CodeRow := { row with count := redeemed row.count }

namespace Tables

def owner? (t : Tables) (id : Uuid) : Option Uuid :=
  (t.owners.find? fun entry => entry.1 = id).map (·.2)

def code? (t : Tables) (number : Int) : Option CodeRow :=
  t.codes.find? fun row => row.number = number

def free (t : Tables) (id : Uuid) : List CodeRow :=
  t.codes.filter fun row => row.promotion = id && hasRoom row.count

def codesOf (t : Tables) (id : Uuid) : List CodeRow := t.codes.filter fun row => row.promotion = id

def redeem (t : Tables) (number : Int) : Tables where
  owners := t.owners
  codes := t.codes.map fun row => if row.number = number then row.redeem else row
  distinct := t.distinct
  ordered := by
    refine List.pairwise_map.mpr (t.ordered.imp fun {a b} hab => ?_)
    split <;> split <;> exact hab

def remove (t : Tables) (id : Uuid) : Tables where
  owners := t.owners.filter fun entry => entry.1 ≠ id
  codes := t.codes.filter fun row => row.promotion ≠ id
  distinct := t.distinct.sublist (List.filter_sublist.map _)
  ordered := t.ordered.filter _

def apply (t : Tables) : Change → Tables
  | .redeem number => t.redeem number
  | .remove id => t.remove id

/-- The tables after changes, of which the first comes first. -/
def applyAll (t : Tables) (changes : List Change) : Tables := changes.foldl apply t

end Tables

/-! ### The server -/

inductive Lock where
  | promotion (id : Uuid)
  | code (number : Int)
  deriving DecidableEq

/-- What all sessions have in common: what is committed, who holds which lock, and who has committed
what, the latest first. -/
structure Server where
  tables : Tables
  holder : Lock → Option Nat := fun _ => none
  history : List (Nat × Change) := []

/-- What the server keeps for a session. -/
structure Connection where
  /-- What the open transaction has changed so far; nothing if none is open. -/
  changes : Option (List Change) := none
  /-- The codes that the statement under way has still to look at. -/
  scan : Option (List Int) := none

namespace Server

/-- Whether nobody else holds a lock. -/
def free (sv : Server) (who : Nat) (l : Lock) : Bool := (sv.holder l).all (· = who)

def take (sv : Server) (who : Nat) (l : Lock) : Server :=
  { sv with holder := fun x => if x = l then some who else sv.holder x }

/-- A session lets all of its locks go. -/
def letGo (sv : Server) (who : Nat) : Server :=
  { sv with holder := fun x => if sv.holder x = some who then none else sv.holder x }

def commit (sv : Server) (who : Nat) (changes : List Change) : Server :=
  { sv with
    tables := sv.tables.applyAll changes
    history := (changes.map (who, ·)).reverse ++ sv.history }.letGo who

/-- What a session has committed, the latest first. -/
def committedBy (sv : Server) (who : Nat) : List Change :=
  (sv.history.filter fun entry => entry.1 = who).map (·.2)

/-- What a statement makes of a code that it has come to. -/
inductive Look where
  /-- Another session has locked it. -/
  | taken
  /-- It does not belong to the promotion or has no activations left, or is not there any more. -/
  | unfit
  /-- It can be handed out. -/
  | fit (row : CodeRow)

def look (sv : Server) (view : Tables) (who : Nat) (id : Uuid) (number : Int) : Look :=
  if sv.free who (.code number) then
    match (view.free id).find? fun row => row.number = number with
    | some row => .fit row
    | none => .unfit
  else .taken

/-- The next thing that happens to a statement in an open transaction. It is answered, or it has
come one step further, or it can only wait. -/
def execute (sv : Server) (who : Nat) (changes : List Change) (scan : Option (List Int)) :
    (s : Statement) → Option (Option s.Reply × Server × Connection)
  | .commit => some (some (), sv.commit who changes, {})
  | .selectFreeCode id waits =>
    let view := sv.tables.applyAll changes
    match scan with
    | none => some (none, sv, ⟨some changes, some ((view.free id).map (·.number))⟩)
    | some [] => some (some [], sv, ⟨some changes, none⟩)
    | some (number :: rest) =>
      match sv.look view who id number with
      | .fit row =>
        some (some [(number, row.count.code)], sv.take who (.code number), ⟨some changes, none⟩)
      | .unfit => some (none, sv, ⟨some changes, some rest⟩)
      | .taken => if waits then none else some (none, sv, ⟨some changes, some rest⟩)
  | .promotionExists id =>
    let view := sv.tables.applyAll changes
    some (some [(view.owner? id).isSome], sv, ⟨some changes, none⟩)
  | .redeemCode number =>
    let view := sv.tables.applyAll changes
    if (view.code? number).any fun row => hasRoom row.count then
      if sv.free who (.code number) then
        some (some 1, sv.take who (.code number), ⟨some (changes ++ [.redeem number]), none⟩)
      else none
    else some (some 0, sv, ⟨some changes, none⟩)
  | .lockOwner id =>
    let view := sv.tables.applyAll changes
    match view.owner? id with
    | none => some (some [], sv, ⟨some changes, none⟩)
    | some owner =>
      if sv.free who (.promotion id) then
        some (some [owner], sv.take who (.promotion id), ⟨some changes, none⟩)
      else none
  | .deletePromotion id =>
    let view := sv.tables.applyAll changes
    match scan with
    | none =>
      if sv.free who (.promotion id) then
        some (none, sv.take who (.promotion id),
          ⟨some changes, some ((view.codesOf id).map (·.number))⟩)
      else none
    | some (number :: rest) =>
      if sv.free who (.code number) then
        some (none, sv.take who (.code number), ⟨some changes, some rest⟩)
      else none
    | some [] =>
      match view.owner? id with
      | some _ => some (some 1, sv, ⟨some (changes ++ [.remove id]), none⟩)
      | none => some (some 0, sv, ⟨some changes, none⟩)
  | _ => none

/-- The same for any statement. Outside of a transaction one can only be begun, or be rolled back
once more. -/
def answer (sv : Server) (who : Nat) (c : Connection) :
    (s : Statement) → Option (Option s.Reply × Server × Connection)
  | .begin => if c.changes.isNone then some (some (), sv, ⟨some [], none⟩) else none
  | .rollback => some (some (), sv.letGo who, {})
  | s => c.changes.bind fun changes => sv.execute who changes c.scan s

end Server

/-! ### Sessions -/

inductive Task where
  | activate (id : Uuid)
  | delete (id company : Uuid)

namespace Task

abbrev Result : Task → Type
  | activate _ => String
  | delete _ _ => Unit

def exchange : (task : Task) → Exchange (Except Failure task.Result)
  | activate id => Repository.activate id
  | delete id company => Repository.delete id company

end Task

/-- A session: what is left of its dialogue, what the server keeps for it, and whether the gate has
refused it. -/
structure Session where
  task : Task
  left : Exchange (Except Failure task.Result)
  connection : Connection := {}
  refused : Bool := false

structure Turn where
  /-- Whether the gate refuses. -/
  refuses : Bool := false
  /-- Why the statement fails, if it does, and whether its transaction is lost with it. -/
  fault : Option (StorageCause × Bool) := none

namespace Session

def begin (task : Task) : Session := { task, left := task.exchange }

def result? (s : Session) : Option (Except Failure s.task.Result) :=
  match s.left with
  | .done a => some a
  | .ask _ _ => none

/-- The next step of a session. There is none when it has come to its end, and none while it can
only wait. -/
def step (s : Session) (who : Nat) (turn : Turn) (sv : Server) : Option (Session × Server) :=
  match s.left with
  | .done _ => none
  | .ask (.gate _ _) next =>
    some ({ s with left := next turn.refuses, refused := s.refused || turn.refuses }, sv)
  | .ask (.send st) next =>
    match turn.fault with
    | some (cause, true) =>
      some ({ s with left := next (.error cause), connection := {} }, sv.letGo who)
    | some (cause, false) =>
      some ({ s with left := next (.error cause), connection.scan := none }, sv)
    | none =>
      (sv.answer who s.connection st).map fun
        | (none, sv, connection) => ({ s with connection }, sv)
        | (some reply, sv, connection) => ({ s with left := next (.ok reply), connection }, sv)

end Session

structure Traffic where
  server : Server
  sessions : List Session := []

inductive Traffic.Move where
  /-- A session begins. -/
  | begin (task : Task)
  /-- A session takes a step. -/
  | advance (who : Nat) (turn : Turn)

namespace Traffic

def start (t : Tables) : Traffic := ⟨{ tables := t }, []⟩

def next (x : Traffic) : Move → Option Traffic
  | .begin task => some { x with sessions := x.sessions ++ [.begin task] }
  | .advance who turn => do
    let s ← x.sessions[who]?
    let (s, server) ← s.step who turn x.server
    some ⟨server, x.sessions.set who s⟩

def run (x : Traffic) (ms : List Move) : Option Traffic := ms.foldlM next x

end Traffic

end Promotions.Postgres
