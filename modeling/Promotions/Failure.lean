import Promotions.Json.Value
import Promotions.Request.Violation

/-!
The ways in which an operation can fail, with their wording and what a caller is told of them. What
is the service's own trouble is told to no caller.
-/

namespace Promotions

inductive StorageCause where
  /-- The database reported an error. -/
  | database (text : String)
  /-- A row that must be there was not. -/
  | rowNotFound
  /-- There are no connections any more. -/
  | poolClosed
  /-- A connection failed. -/
  | io (text : String)
  /-- A reply was not understood. -/
  | protocol (text : String)
  deriving DecidableEq

def StorageCause.message : StorageCause → String
  | .database text => "error returned from database: " ++ text
  | .rowNotFound => "no rows returned by a query that expected to return at least one row"
  | .poolClosed => "attempted to acquire a connection on a closed pool"
  | .io text => "error communicating with database: " ++ text
  | .protocol text => "encountered unexpected or invalid data: " ++ text

inductive Failure where
  /-- A field of a request breaks a rule. -/
  | invalid (error : FieldError)
  | promotionNotFound
  | companyNotFound
  /-- The promotion belongs to another company. -/
  | permissionDenied
  /-- The caller's company is not known. -/
  | unknownCaller
  /-- All codes of the promotion are used up. -/
  | exhausted
  /-- The fraud gate refused the activation. -/
  | rejectedByGate
  /-- The step of an operation on the database that failed. -/
  | storage (step : String) (cause : StorageCause)
  | cache (text : String)
  | directory (text : String)
  /-- The service found itself in a state that cannot be. -/
  | internal (detail : String)
  deriving DecidableEq

namespace Failure

def ofViolation (v : Violation) : Failure := .invalid v.fieldError

def message : Failure → String
  | .invalid e => "Erro de validação: " ++ e.field ++ ": " ++ e.message
  | .promotionNotFound => "Promoção não encontrada"
  | .companyNotFound => "Empresa não encontrada"
  | .permissionDenied => "Permissão negada"
  | .unknownCaller => "Cabeçalho x-company-id ausente ou inválido"
  | .exhausted => "Nenhuma ativação restante"
  | .rejectedByGate => "Ativação recusada pelo antifraude"
  | .storage step cause => step ++ ": " ++ cause.message
  | .cache text => "Erro de cache: " ++ text
  | .directory text => "Erro no serviço de contas: " ++ text
  | .internal _ => "Erro interno do servidor"

def status : Failure → Nat
  | .invalid _ => 400
  | .promotionNotFound | .companyNotFound => 404
  | .permissionDenied | .rejectedByGate => 403
  | .unknownCaller => 401
  | .exhausted => 409
  | .storage _ _ | .cache _ | .directory _ | .internal _ => 500

/-- A failure is not reported as a success. -/
theorem status_ne_ok (f : Failure) : f.status ≠ 200 := by
  cases f <;> simp [status]

def body (f : Failure) : Json.Value :=
  match f with
  | .invalid e => .object [("error", .text e.message), ("field", .text e.field)]
  | .storage _ _ | .cache _ | .directory _ | .internal _ =>
    .object [("error", .text "Ocorreu um erro inesperado.")]
  | f => .object [("error", .text f.message)]

end Failure

end Promotions
