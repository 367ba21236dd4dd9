import Promotions.Promotion.Basic

/-!
Promotions that are about to be created: a draft says which codes there will be, as a budget, and
the pool of codes is laid out from it.
-/

namespace Promotions

inductive Budget where
  /-- One code for everybody, good for `maxCount` activations. -/
  | common (code : String) (maxCount : Int64)
  /-- Codes that are good for one activation each. -/
  | unique (codes : List String)
  deriving DecidableEq

structure NewCode where
  code : String
  maxCount : Int64
  deriving DecidableEq

namespace Budget

def mode : Budget → Mode
  | .common _ _ => .common
  | .unique _ => .unique

/-- The code pool: a shared code carries the whole budget, and every other code a budget of one. -/
def pool : Budget → List NewCode
  | .common code maxCount => [⟨code, maxCount⟩]
  | .unique codes => codes.map (⟨·, 1⟩)

end Budget

/-- A promotion that is about to be created. -/
structure Draft where
  companyId : Uuid
  content : Content
  budget : Budget
  deriving DecidableEq

def NewCode.unused (c : NewCode) : CodeCount := ⟨c.code, 0, c.maxCount⟩

def Draft.promotion (d : Draft) (id : Uuid) (createdAt : Calendar.Instant) (codes : List NewCode) :
    Promotion :=
  ⟨id, d.companyId, d.budget.mode, d.content, createdAt, codes.map NewCode.unused⟩

end Promotions
