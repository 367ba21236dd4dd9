import Promotions.Uuid

/-!
The fraud gate. It is asked about every activation while the code is held and before it is counted;
a refusal leaves the code as it was.
-/

namespace Promotions

inductive Gate where
  /-- Refuses nothing. -/
  | unguarded
  /-- Refuses the given share of a hundred activations. -/
  | sampling (percent : Nat)
  deriving DecidableEq

namespace Gate

/-- The gate that refuses the given share of a hundred; more than a hundred means all. -/
def ofPercent (percent : Nat) : Gate := .sampling (min percent 100)

/-- Whether the gate refuses, given a number below a hundred drawn for this activation. -/
def refuses : Gate → (draw : Nat) → Bool
  | .unguarded, _ => false
  | .sampling percent, draw => percent ≠ 0 && draw < percent

end Gate

/-- A gate that follows a script, and after its end a rule. -/
structure ScriptedGate where
  /-- The next decisions; `true` refuses. -/
  script : List Bool := []
  /-- The codes that are refused once the script has ended. -/
  refusedCodes : List String := []
  /-- Whether every code is refused once the script has ended. -/
  refusesAll : Bool := false
  /-- What the gate was asked about, the latest first. -/
  asked : List (Uuid × String) := []

namespace ScriptedGate

def decide (g : ScriptedGate) (id : Uuid) (code : String) : Bool × ScriptedGate :=
  let g := { g with asked := (id, code) :: g.asked }
  match g.script with
  | refuse :: script => (refuse, { g with script })
  | [] => (g.refusesAll || g.refusedCodes.contains code, g)

end ScriptedGate

end Promotions
