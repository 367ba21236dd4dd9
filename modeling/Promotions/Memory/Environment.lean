import Promotions.Gate
import Promotions.Memory.Cache
import Promotions.Memory.Contention
import Promotions.Memory.Store
import Promotions.Service.Basic
import Promotions.Supply

/-!
Surroundings of the service that lie in memory: a store, a cache, a directory of companies and a
gate that follows a script. They count what they are asked, and their parts can be made to fail.
-/

namespace Promotions.Memory

structure Directory where
  names : List (Uuid × String) := []
  unavailable : Bool := false

def Directory.name (d : Directory) (company : Uuid) : Except Failure String :=
  if d.unavailable then .error (.directory "serviço de contas indisponível")
  else
    match d.names.lookup company with
    | some name => .ok name
    | none => .error .companyNotFound

/-- How often the cache and the directory were asked. -/
structure Tally where
  /-- Look-ups in the cache. -/
  finds : Nat := 0
  /-- Texts put into the cache. -/
  fills : Nat := 0
  /-- Calls that declare an entry stale, those that failed included. -/
  invalidations : Nat := 0
  /-- Calls of the directory. -/
  names : Nat := 0

structure Environment where
  store : Store := {}
  /-- Whether the store fails to take in new codes. -/
  refusesCodes : Bool := false
  cache : Cache := {}
  directory : Directory := {}
  gate : ScriptedGate := {}
  supply : Supply := {}
  tally : Tally := {}

namespace Environment

def codesRefused : Failure :=
  .storage "memory.create.codes" (.protocol "inserção de códigos desativada")

def answerStore (r : StoreRequest) (e : Environment) : r.Answer × Environment :=
  match r with
  | .create id createdAt draft codes =>
    if e.refusesCodes then (.error codesRefused, e)
    else (.ok (), { e with store := e.store.insert (draft.promotion id createdAt codes) })
  | .find id => (.ok (e.store.find? id), e)
  | .list filter page key => (.ok (e.store.list filter page key), e)
  | .count filter => (.ok (e.store.count filter), e)
  | .update id company content =>
    let (r, store) := e.store.update id company content
    (r, { e with store })
  | .delete id company =>
    let (r, store) := e.store.delete id company
    (r, { e with store })
  | .activate id =>
    let (r, store, gate) := e.store.activate (fun id code g => g.decide id code) id e.gate
    (r, { e with store, gate })

def answerCache (r : CacheRequest) (e : Environment) : r.Answer × Environment :=
  match r with
  | .find key =>
    let (r, cache) := Cache.answer (.find key) e.cache
    (r, { e with cache, tally.finds := e.tally.finds + 1 })
  | .generation key => (((Cache.answer (.generation key) e.cache).1), e)
  | .fill key value generation =>
    let (r, cache) := Cache.answer (.fill key value generation) e.cache
    let filled := match r with
      | .ok true => 1
      | _ => 0
    (r, { e with cache, tally.fills := e.tally.fills + filled })
  | .invalidate key =>
    let (r, cache) := Cache.answer (.invalidate key) e.cache
    (r, { e with cache, tally.invalidations := e.tally.invalidations + 1 })

def answer (q : Ask) (e : Environment) : q.Answer × Environment :=
  match q with
  | .mint =>
    let (r, supply) := e.supply.take
    (r, { e with supply })
  | .store r => e.answerStore r
  | .cache r => e.answerCache r
  | .companyName company =>
    (e.directory.name company, { e with tally.names := e.tally.names + 1 })

def perform {α : Type} (e : Environment) (a : Action α) : α × Environment :=
  a.run (fun q e => e.answer q) e

def loads : Ask → Bool
  | .store (.find _) => true
  | _ => false

/-- An operation carried out as far as the store's answer with a promotion, and whether it got
there. -/
def performToLoad {α : Type} (e : Environment) (a : Action α) :
    (Bool × Action α) × Environment :=
  a.runPast (fun q e => e.answer q) loads e

/-- Activations of a promotion by several callers at the same time. -/
def activateTogether (e : Environment) (id : Uuid) (callers : Nat) :
    List (Except Failure String) × Environment :=
  let (results, store, gate) :=
    e.store.activateTogether (fun id code g => g.decide id code) id callers e.gate
  results.foldl
    (fun (done, e) r =>
      let (r, e) := e.perform (Service.settle id r)
      (done ++ [r], e))
    ([], { e with store, gate })

end Environment

end Promotions.Memory
