import Promotions.Json.Value

/-!
What a customer is told about an activation. That all codes are used up and that the gate refused
are outcomes, not errors.
-/

namespace Promotions

inductive ActivationReason where
  | granted
  | exhausted
  | rejectedByGate
  deriving DecidableEq

def ActivationReason.label : ActivationReason → String
  | .granted => "OK"
  | .exhausted => "NO_ACTIVATIONS_LEFT"
  | .rejectedByGate => "ANTIFRAUD"

structure ActivationReport where
  success : Bool
  code : Option String
  reason : ActivationReason
  deriving DecidableEq

namespace ActivationReport

def granted (code : String) : ActivationReport := ⟨true, some code, .granted⟩

def refused (reason : ActivationReason) : ActivationReport := ⟨false, none, reason⟩

/-- The report as JSON. A code that is absent is left out. -/
def toJson (r : ActivationReport) : Json.Value := .object (
  [("success", .bool r.success)] ++ (r.code.map fun c => ("code", .text c)).toList
    ++ [("reason", .text r.reason.label)])

end ActivationReport

end Promotions
