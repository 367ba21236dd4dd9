import Promotions.Text.Blank
import Promotions.Text.Numeral

/-!
The settings of the service, looked up by name. Numbers are read first, then the addresses that must
be there.
-/

namespace Promotions

open Text

structure Settings where
  databaseUrl : String
  redisUrl : String
  accountServiceUrl : String
  serverAddr : String
  dbMaxConnections : Nat
  /-- The share of a hundred activations that the gate refuses; zero turns it off. -/
  antifraudRejectPercent : Nat
  deriving DecidableEq

inductive SettingsFault where
  /-- A setting that must be there is absent or blank. -/
  | missing (name : String)
  /-- A setting is no number within its bounds. -/
  | malformed (name raw : String) (cause : NumeralFault)
  /-- The share of refused activations is above a hundred. -/
  | percent
  deriving DecidableEq

namespace SettingsFault

def message : SettingsFault → String
  | .missing name => name ++ " deve ser definida"
  | .malformed name raw _ => name ++ " inválido: " ++ raw
  | .percent => "ANTIFRAUD_REJECT_PERCENT deve estar entre 0 e 100"

def causes : SettingsFault → List String
  | .malformed _ _ cause => [cause.message]
  | .missing _ | .percent => []

end SettingsFault

namespace Settings

/-- A number from zero to `high` with blanks around it, or its default when it is not set. -/
def number (name : String) (high : Int) (default : Nat) :
    Option String → Except SettingsFault Nat
  | none => .ok default
  | some raw =>
    match Text.integer 0 high (trim raw).toList with
    | .ok n => .ok n.toNat
    | .error cause => .error (.malformed name raw cause)

def required (lookup : String → Option String) (name : String) : Except SettingsFault String :=
  match blankToNone (lookup name) with
  | some s => .ok s
  | none => .error (.missing name)

def ofLookup (lookup : String → Option String) : Except SettingsFault Settings := do
  let connections ← number "DB_MAX_CONNECTIONS" 4294967295 10 (lookup "DB_MAX_CONNECTIONS")
  let percent ← number "ANTIFRAUD_REJECT_PERCENT" 255 25 (lookup "ANTIFRAUD_REJECT_PERCENT")
  if 100 < percent then .error .percent
  .ok {
    databaseUrl := ← required lookup "DATABASE_URL"
    redisUrl := ← required lookup "REDIS_URL"
    accountServiceUrl := ← required lookup "ACCOUNT_SERVICE_URL"
    serverAddr := (lookup "SERVER_ADDR").getD "0.0.0.0:3000"
    dbMaxConnections := connections
    antifraudRejectPercent := percent }

end Settings

end Promotions
