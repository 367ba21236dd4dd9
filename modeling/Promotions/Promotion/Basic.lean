import Promotions.Uuid
import Promotions.Calendar.Instant

/-!
Promotions: what a company offers, to whom, for how long, and the codes that redeem it.
-/

namespace Promotions

open Calendar

inductive Mode where
  /-- One code that everybody shares, with a limit on the number of its activations. -/
  | common
  /-- A list of codes, each good for one activation. -/
  | unique
  deriving DecidableEq

namespace Mode

def label : Mode → String
  | .common => "COMMON"
  | .unique => "UNIQUE"

/-- The mode with the given name, which must be written exactly so. -/
def ofLabel? (s : String) : Option Mode :=
  if s = "COMMON" then some .common else if s = "UNIQUE" then some .unique else none

end Mode

/-- Whom a promotion is for. What is absent does not restrict it. -/
structure Target where
  ageFrom : Option Int32 := none
  ageUntil : Option Int32 := none
  country : Option String := none
  categories : List String := []
  deriving DecidableEq

/-- What the owner of a promotion may change at any time. -/
structure Content where
  description : String
  imageUrl : Option String
  target : Target
  activeFrom : Option Instant
  activeUntil : Option Instant
  deriving DecidableEq

structure CodeCount where
  code : String
  activations : Int64
  maxCount : Int64
  deriving DecidableEq

/-- A promotion with its codes, in the order in which they are handed out. -/
structure Promotion where
  id : Uuid
  companyId : Uuid
  mode : Mode
  content : Content
  createdAt : Instant
  codes : List CodeCount
  deriving DecidableEq

/-- The number of activations of a list of codes, in 64-bit arithmetic. -/
def totalActivations (codes : List CodeCount) : Int64 :=
  codes.foldl (fun n c => n + c.activations) 0

/-- A promotion as its owner sees it: with the company's name and the activations counted. -/
structure Detail where
  promotion : Promotion
  companyName : String
  activationsCount : Int64
  deriving DecidableEq

/-- The promotion as the company of the given name sees it. -/
def Promotion.detail (p : Promotion) (companyName : String) : Detail :=
  ⟨p, companyName, totalActivations p.codes⟩

end Promotions
