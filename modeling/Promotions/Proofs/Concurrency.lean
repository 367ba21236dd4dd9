import Promotions.Memory.Environment
import Promotions.Proofs.Questions
import Promotions.Proofs.Rows

/-!
Calls of the service that run at the same time, over one store and one cache in memory. Every call
is the dialogue of its operation, and between any two of its steps the other calls may take any
number of theirs. A step is what nobody can come in between: one question to the cache, one change
under the lock of the promotions, one attempt at a row, one decision of the gate with the count that
follows it. Reading a promotion is no single step: its rows are copied one after the other, and each
is held while it is copied. A call may be given up between any two steps; what it holds is let go.

Which call takes the next step, what the gate decides, when the cache fails: all that is written in
a schedule, so that a statement about every schedule is one about every order of events.
-/

namespace Promotions.Memory

/-! ### Copying promotions -/

def Pool.blank (pool : Pool) : Pool :=
  { pool with promotion := { pool.promotion with codes := [] } }

/-- How far the copying of promotions has come. The first promotion that is not done yet has the
codes that are copied so far; with it are the rows that are not. -/
inductive Copy where
  /-- Holding no row. -/
  | reading (done : List Promotion) (todo : List Pool)
  /-- Holding a row to copy it. -/
  | holding (done : List Promotion) (p : Promotion) (row : Nat) (left : List Nat)
      (rest : List Pool)

namespace Copy

def result? : Copy → Option (List Promotion)
  | reading done [] => some done
  | _ => none

/-- The next step of the copying. There is none when all is copied, and none while the next row is
held by somebody. -/
def step (caller : Nat) (w : World) : Copy → Option (Copy × World)
  | reading _ [] => none
  | reading done (⟨p, []⟩ :: rest) => some (reading (done ++ [p]) rest, w)
  | reading done (⟨p, r :: left⟩ :: rest) =>
    if w.held r then none else some (holding done p r left rest, w.hold r caller)
  | holding done p r left rest =>
    let p := { p with codes := p.codes ++ (w.count? r).toList }
    some (reading done (⟨p, left⟩ :: rest), w.release r)

end Copy

/-! ### The steps of a call -/

structure Choice where
  /-- Whether the gate refuses. -/
  refuses : Bool := false
  /-- A new identifier and the present time. -/
  minted : Uuid × Calendar.Instant := (Supply.idAt 0, Supply.timeAt 0)
  /-- What the directory answers. -/
  name : Except Failure String := .error .companyNotFound

/-- What a step did, where a later statement speaks about it. -/
inductive Note where
  /-- An activation has taken down the rows of its promotion. -/
  | captured (rows : List Nat)
  /-- An activation of a promotion was counted in a row. -/
  | counted (id : Uuid) (row : Nat)
  /-- A promotion was changed, removed or replaced by another one. -/
  | changed (id : Uuid)
  /-- The text under a key was declared stale. -/
  | staled (key : String)
  deriving DecidableEq

structure Shared where
  world : World
  cache : Cache := {}
  /-- Whether the store fails to take in new codes. -/
  refusesCodes : Bool := false

/-- What is worth noting about an answer of the cache. -/
def staled? : (r : CacheRequest) → r.Answer → Option Note
  | .invalidate key, .ok () => some (.staled key)
  | _, _ => none

def changed? (id : Uuid) : Except Failure Unit → Option Note
  | .ok () => some (.changed id)
  | .error _ => none

def Phase.note? (id : Uuid) : Phase → Phase → Option Note
  | arriving, probing rows _ => some (.captured rows)
  | deciding r, releasing _ (.ok _) => some (.counted id r)
  | _, _ => none

/-- Where a call is. -/
inductive Stage (α : Type) where
  /-- About to ask the next question of a dialogue, or at its end. -/
  | asking (d : Action α)
  /-- Activating a promotion in the store. -/
  | activating (id : Uuid) (p : Phase) (next : Except Failure String → Action α)
  /-- Copying promotions out of the store. -/
  | copying (c : Copy) (next : List Promotion → Action α)
  /-- Given up. -/
  | abandoned

namespace Stage

variable {α : Type}

/-- The step in which a question is asked. Most questions are answered in it. -/
def ask (ch : Choice) (s : Shared) :
    (q : Ask) → (q.Answer → Action α) → Stage α × Shared × Option Note
  | .mint, next => (asking (next ch.minted), s, none)
  | .companyName _, next => (asking (next ch.name), s, none)
  | .cache r, next =>
    let (a, cache) := Cache.answer r s.cache
    (asking (next a), { s with cache }, staled? r a)
  | .store (.create id now draft codes), next =>
    if s.refusesCodes then (asking (next (.error Environment.codesRefused)), s, none)
    else
      let world := s.world.insert (draft.promotion id now codes)
      (asking (next (.ok ())), { s with world }, (s.world.pool? id).map fun _ => .changed id)
  | .store (.find id), next =>
    match s.world.pool? id with
    | none => (asking (next (.ok none)), s, none)
    | some pool => (copying (.reading [] [pool.blank]) fun ps => next (.ok ps.head?), s, none)
  | .store (.list filter page key), next =>
    let todo := (s.world.listing filter page key).map Pool.blank
    (copying (.reading [] todo) fun ps => next (.ok ps), s, none)
  | .store (.count filter), next => (asking (next (.ok (s.world.toStore.count filter))), s, none)
  | .store (.update id company content), next =>
    let (a, world) := s.world.update id company content
    (asking (next a), { s with world }, changed? id a)
  | .store (.delete id company), next =>
    let (a, world) := s.world.delete id company
    (asking (next a), { s with world }, changed? id a)
  | .store (.activate id), next => (activating id .arriving next, s, none)

/-- The next step of a call. There is none when it has returned or was given up, and none while it
waits for a row that somebody holds. -/
def step (ch : Choice) (caller : Nat) (s : Shared) :
    Stage α → Option (Stage α × Shared × Option Note)
  | asking (.done _) => none
  | asking (.ask q next) => some (ask ch s q next)
  | activating id p next =>
    match p.result? with
    | some a => some (asking (next a), s, none)
    | none =>
      (p.step (fun _ _ g => (ch.refuses, g)) caller id s.world ()).map fun (p', world, _) =>
        (activating id p' next, { s with world }, p.note? id p')
  | copying c next =>
    match c.result? with
    | some ps => some (asking (next ps), s, none)
    | none => (c.step caller s.world).map fun (c', world) =>
        (copying c' next, { s with world }, none)
  | abandoned => none

def unfinished : Stage α → Bool
  | asking (.done _) => false
  | abandoned => false
  | _ => true

end Stage

/-! ### The row that a call holds -/

def Phase.held? : Phase → Option Nat
  | probed r _ _ | obtained r _ | pausing r | deciding r | releasing r _ => some r
  | _ => none

def Copy.held? : Copy → Option Nat
  | holding _ _ r _ _ => some r
  | _ => none

def Stage.held? {α : Type} : Stage α → Option Nat
  | activating _ p _ => p.held?
  | copying c _ => c.held?
  | _ => none

/-! ### All calls together -/

def capturedAfter (before : List Nat) : Option Note → List Nat
  | some (.captured rows) => rows
  | _ => before

def countedAfter (before : Option Nat) : Option Note → Option Nat
  | some (.counted _ r) => some r
  | _ => before

structure Call where
  operation : Operation
  stage : Stage operation.Result
  /-- The rows that an activation goes along. -/
  captured : List Nat := []
  /-- The row in which an activation was counted. -/
  counted : Option Nat := none

namespace Call

def begin (o : Operation) : Call := ⟨o, .asking o.action, [], none⟩

def advance (c : Call) (stage : Stage c.operation.Result) (note : Option Note) : Call where
  operation := c.operation
  stage := stage
  captured := capturedAfter c.captured note
  counted := countedAfter c.counted note

def abandon (c : Call) : Call := { c with stage := .abandoned }

end Call

/-- Calls that run at the same time, by their numbers, and what was noted, the latest first. -/
structure System where
  shared : Shared
  calls : List Call := []
  history : List Note := []

inductive Move where
  /-- A call begins. -/
  | begin (o : Operation)
  /-- A call takes a step. -/
  | advance (caller : Nat) (ch : Choice)
  /-- A call is given up. -/
  | abandon (caller : Nat)
  /-- The cache begins to fail, or ends to. -/
  | failCache (failing : Bool)
  /-- The store begins to fail to take in new codes, or ends to. -/
  | failCodes (failing : Bool)

namespace System

def store (s : System) : Store := s.shared.world.toStore

def start (store : Store) (cache : Cache) : System := ⟨⟨World.ofStore store, cache, false⟩, [], []⟩

def letGo (w : World) : Option Nat → World
  | some r => w.release r
  | none => w

def next (s : System) : Move → Option System
  | .begin o => some { s with calls := s.calls ++ [.begin o] }
  | .advance caller ch => do
    let c ← s.calls[caller]?
    let (stage, shared, note) ← c.stage.step ch caller s.shared
    some ⟨shared, s.calls.set caller (c.advance stage note), note.toList ++ s.history⟩
  | .abandon caller => do
    let c ← s.calls[caller]?
    if c.stage.unfinished then
      some { s with
        shared.world := letGo s.shared.world c.stage.held?
        calls := s.calls.set caller c.abandon }
    else none
  | .failCache failing => some { s with shared.cache.failing := failing }
  | .failCodes failing => some { s with shared.refusesCodes := failing }

def run (s : System) (ms : List Move) : Option System := ms.foldlM next s

/-- Steps of calls, by their numbers, in this order. Nothing is refused. -/
def turns (callers : List Nat) : List Move := callers.map fun i => .advance i {}

end System

def Store.single (codes : List CodeCount) : Store where
  promotions := [⟨Supply.idAt 0, Supply.idAt 1, .common, ⟨"", none, {}, none, none⟩,
    Supply.timeAt 0, codes⟩]

end Promotions.Memory
