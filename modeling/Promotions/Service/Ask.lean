import Promotions.Dialogue
import Promotions.Failure
import Promotions.Listing
import Promotions.Promotion.Draft

/-!
What the service asks its surroundings: the store, which holds the truth; the cache, which may be
wrong or absent; the directory of companies; and a fresh identifier with the time.
-/

namespace Promotions

open Calendar

inductive StoreRequest where
  /-- Keeps a new promotion with its codes, or nothing of it. -/
  | create (id : Uuid) (createdAt : Instant) (draft : Draft) (codes : List NewCode)
  | find (id : Uuid)
  | list (filter : Filter) (page : Page) (key : SortKey)
  | count (filter : Filter)
  /-- Replaces the content of a promotion if the company owns it. -/
  | update (id company : Uuid) (content : Content)
  /-- Removes a promotion with its codes if the company owns it. -/
  | delete (id company : Uuid)
  /-- Takes one activation of a code that has some left. -/
  | activate (id : Uuid)

abbrev StoreRequest.Answer : StoreRequest → Type
  | .create _ _ _ _ | .update _ _ _ | .delete _ _ => Except Failure Unit
  | .find _ => Except Failure (Option Promotion)
  | .list _ _ _ => Except Failure (List Promotion)
  | .count _ => Except Failure Int
  | .activate _ => Except Failure String

/-- What the cache is asked. Every entry has a generation, which counts how often it was declared
stale. -/
inductive CacheRequest where
  | find (key : String)
  | generation (key : String)
  /-- Keeps a text if the generation is still the given one, and tells whether it was. -/
  | fill (key value : String) (generation : Nat)
  /-- Removes an entry and ends its generation. -/
  | invalidate (key : String)

abbrev CacheRequest.Answer : CacheRequest → Type
  | .find _ => Except Failure (Option String)
  | .generation _ => Except Failure Nat
  | .fill _ _ _ => Except Failure Bool
  | .invalidate _ => Except Failure Unit

inductive Ask where
  /-- A fresh identifier and the present time. -/
  | mint
  | store (r : StoreRequest)
  | cache (r : CacheRequest)
  | companyName (company : Uuid)

abbrev Ask.Answer : Ask → Type
  | .mint => Uuid × Instant
  | .store r => r.Answer
  | .cache r => r.Answer
  | .companyName _ => Except Failure String

abbrev Action (α : Type) := Dialogue Ask Ask.Answer α

namespace Action

def mint : Action (Uuid × Instant) := .ask .mint .done

def store (r : StoreRequest) : Action r.Answer := .ask (.store r) .done

def cache (r : CacheRequest) : Action r.Answer := .ask (.cache r) .done

def companyName (company : Uuid) : Action (Except Failure String) :=
  .ask (.companyName company) .done

end Action

end Promotions
