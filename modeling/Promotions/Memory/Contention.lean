import Promotions.Memory.Store

/-!
Activations that run at the same time. Every code is a row that one caller at a time can hold. A
caller first goes along the rows of its promotion and passes over those that others hold; only when
none of them has room does it go along them once more and wait for each. The caller that holds a row
with room asks the gate, counts the activation unless the gate refuses, and lets the row go. Other
callers may come in between at every step.
-/

namespace Promotions.Memory

/-- A code that one caller at a time can hold. -/
structure Row where
  count : CodeCount
  holder : Option Nat := none

/-- A promotion with its rows, by their numbers, in the order in which they are handed out. -/
structure Pool where
  promotion : Promotion
  rows : List Nat

structure World where
  pools : List Pool := []
  rows : List Row := []

namespace World

/-- The world with one more promotion, whose codes become rows. -/
def add (w : World) (p : Promotion) : World where
  pools := w.pools ++ [⟨p, List.range' w.rows.length p.codes.length⟩]
  rows := w.rows ++ p.codes.map (⟨·, none⟩)

def ofStore (s : Store) : World := s.promotions.foldl add {}

/-- The promotions with the counts that their rows have now. -/
def toStore (w : World) : Store :=
  ⟨w.pools.map fun pool => { pool.promotion with
    codes := pool.rows.filterMap fun r => (w.rows[r]?).map (·.count) }⟩

def rowsOf? (w : World) (id : Uuid) : Option (List Nat) :=
  (w.pools.find? fun pool => pool.promotion.id = id).map (·.rows)

def held (w : World) (r : Nat) : Bool := (w.rows[r]?).any fun row => row.holder.isSome

def roomAt (w : World) (r : Nat) : Bool := (w.rows[r]?).any fun row => hasRoom row.count

def codeAt (w : World) (r : Nat) : String := (w.rows[r]?).elim "" (·.count.code)

def modify (w : World) (r : Nat) (change : Row → Row) : World :=
  { w with rows := w.rows.modify r change }

def hold (w : World) (r caller : Nat) : World := w.modify r ({ · with holder := some caller })

def release (w : World) (r : Nat) : World := w.modify r ({ · with holder := none })

def redeem (w : World) (r : Nat) : World :=
  w.modify r fun row => { row with count := redeemed row.count }

end World

inductive Phase where
  /-- Nothing is done yet. -/
  | arriving
  /-- Passing over rows that others hold: those to try yet, and all of them. -/
  | probing (left all : List Nat)
  /-- Holding a row that was free, its room not yet looked at. -/
  | probed (row : Nat) (left all : List Nat)
  /-- Waiting for the next of these rows. -/
  | waiting (left : List Nat)
  /-- Holding a row that was waited for, its room not yet looked at. -/
  | obtained (row : Nat) (left : List Nat)
  /-- Holding a row with room, before giving way to others once. -/
  | pausing (row : Nat)
  /-- Holding a row with room, the gate not yet asked. -/
  | deciding (row : Nat)
  /-- Holding a row to let it go. -/
  | releasing (row : Nat) (result : Except Failure String)
  | finished (result : Except Failure String)

namespace Phase

def result? : Phase → Option (Except Failure String)
  | finished r => some r
  | _ => none

/-- The next step of a caller's activation of a promotion, with a gate of state `γ`. There is none
when it has ended, and none while it waits for a row that somebody holds. -/
def step {γ : Type} (refuse : Uuid → String → γ → Bool × γ) (caller : Nat) (id : Uuid)
    (w : World) (g : γ) : Phase → Option (Phase × World × γ)
  | arriving =>
    match w.rowsOf? id with
    | none => some (finished (.error .promotionNotFound), w, g)
    | some rows => some (probing rows rows, w, g)
  | probing [] all => some (waiting all, w, g)
  | probing (r :: left) all =>
    if w.held r then some (probing left all, w, g)
    else some (probed r left all, w.hold r caller, g)
  | probed r left all =>
    if w.roomAt r then some (pausing r, w, g) else some (probing left all, w.release r, g)
  | waiting [] => some (finished (.error .exhausted), w, g)
  | waiting (r :: left) =>
    if w.held r then none else some (obtained r left, w.hold r caller, g)
  | obtained r left =>
    if w.roomAt r then some (pausing r, w, g) else some (waiting left, w.release r, g)
  | pausing r => some (deciding r, w, g)
  | deciding r =>
    let (refused, g) := refuse id (w.codeAt r) g
    if refused then some (releasing r (.error .rejectedByGate), w, g)
    else some (releasing r (.ok (w.codeAt r)), w.redeem r, g)
  | releasing r result => some (finished result, w.release r, g)
  | finished _ => none

/-- One step of every caller that can take one, in turn, from the caller with the given number
on. -/
def round {γ : Type} (refuse : Uuid → String → γ → Bool × γ) (id : Uuid) (caller : Nat) :
    List Phase → World → γ → List Phase × World × γ
  | [], w, g => ([], w, g)
  | p :: ps, w, g =>
    let (p, w, g) := (p.step refuse caller id w g).getD (p, w, g)
    let (ps, w, g) := round refuse id (caller + 1) ps w g
    (p :: ps, w, g)

/-- Rounds until all callers have come to their end, or as many as are given. -/
def rounds {γ : Type} (refuse : Uuid → String → γ → Bool × γ) (id : Uuid) :
    Nat → List Phase → World → γ → List Phase × World × γ
  | 0, ps, w, g => (ps, w, g)
  | n + 1, ps, w, g =>
    if ps.all fun p => p.result?.isSome then (ps, w, g)
    else
      let (ps, w, g) := round refuse id 0 ps w g
      rounds refuse id n ps w g

end Phase

/-- The results of several callers that activate a promotion at the same time. A caller takes at
most four steps for each row and eight besides, and in every round one of them gets on. -/
def Store.activateTogether {γ : Type} (s : Store) (refuse : Uuid → String → γ → Bool × γ)
    (id : Uuid) (callers : Nat) (g : γ) : List (Except Failure String) × Store × γ :=
  let w := World.ofStore s
  let rows := ((w.rowsOf? id).getD []).length
  let (ps, w, g) :=
    Phase.rounds refuse id (callers * (4 * rows + 8)) (List.replicate callers .arriving) w g
  (ps.filterMap Phase.result?, w.toStore, g)

end Promotions.Memory
