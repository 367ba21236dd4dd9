import Promotions.Service.Ask

/-!
A cache in memory. An entry is filled only under its present generation; while the cache is failing,
it answers every question with an error and stays as it is.
-/

namespace Promotions.Memory

/-- Texts by key, and the generations of the keys that were ever declared stale. -/
structure Cache where
  entries : List (String × String) := []
  generations : List (String × Nat) := []
  failing : Bool := false

namespace Cache

def find? (c : Cache) (key : String) : Option String := c.entries.lookup key

def generation (c : Cache) (key : String) : Nat := (c.generations.lookup key).getD 0

def drop (c : Cache) (key : String) : Cache :=
  { c with entries := c.entries.filter fun e => e.1 ≠ key }

def put (c : Cache) (key value : String) : Cache :=
  { c with entries := (key, value) :: (c.drop key).entries }

def nextGeneration (c : Cache) (key : String) : Cache :=
  { c with generations := (key, c.generation key + 1) ::
      c.generations.filter fun e => e.1 ≠ key }

def refused (operation : String) : Failure := .cache (operation ++ ": conexão recusada")

/-- The answer to a question, and the cache after it. -/
def answer (r : CacheRequest) (c : Cache) : r.Answer × Cache :=
  match r with
  | .find key => if c.failing then (.error (refused "GET"), c) else (.ok (c.find? key), c)
  | .generation key =>
    if c.failing then (.error (refused "GET gen"), c) else (.ok (c.generation key), c)
  | .fill key value generation =>
    if c.failing then (.error (refused "SET"), c)
    else if c.generation key = generation then (.ok true, c.put key value)
    else (.ok false, c)
  | .invalidate key =>
    if c.failing then (.error (refused "DEL"), c)
    else (.ok (), (c.nextGeneration key).drop key)

end Cache

end Promotions.Memory
