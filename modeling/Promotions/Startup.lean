import Promotions.Directory
import Promotions.Gate
import Promotions.Postgres.Script
import Promotions.Redis.Address
import Promotions.Redis.Script
import Promotions.Service.Ask
import Promotions.Supply

/-!
How the service starts: the database is connected to first, then the cache's server, and a gate is
chosen. The service then runs over the two of them.
-/

namespace Promotions

inductive StartupFault where
  /-- The database refuses the connection. -/
  | database
  /-- There is no cache. -/
  | cache (failure : Failure)
  deriving DecidableEq

def StartupFault.message : StartupFault → String
  | .database => "Falha ao conectar ao banco de dados"
  | .cache f => f.message

/-- The failure of a cache whose server's address is faulty. -/
def Redis.AddressFault.failure (f : Redis.AddressFault) : Failure :=
  .cache ("Falha ao criar o cliente Redis: " ++ f.message)

/-- The gate of a service that refuses the given share of a hundred activations. -/
def gateOf (percent : Nat) : Gate := if percent = 0 then .unguarded else .ofPercent percent

/-- A database and a cache's server that answer from scripts, and a directory that does not. -/
structure Servers where
  /-- The address of the directory, where nobody answers. -/
  directory : String
  database : Postgres.Script := {}
  cache : Redis.Script := {}
  supply : Supply := {}

/-- Connects to the servers, unless the database refuses or the address of the cache's server is
faulty. -/
def Servers.connect (s : Servers) (databaseRefuses : Bool) (redisUrl : String) :
    Except StartupFault Servers :=
  if databaseRefuses then .error .database
  else
    match Redis.Address.ofString redisUrl with
    | .error f => .error (.cache f.failure)
    | .ok _ => .ok s

namespace Servers

/-- The answer to a question of the service. -/
def answer (q : Ask) (s : Servers) : q.Answer × Servers :=
  match q with
  | .mint =>
    let (r, supply) := s.supply.take
    (r, { s with supply })
  | .store r =>
    let (r, database) := s.database.perform (Postgres.Repository.answer r)
    (r, { s with database })
  | .cache r =>
    let (r, cache) := s.cache.perform (Redis.Cache.answer r)
    (r, { s with cache })
  | .companyName id => (Directory.name (Directory.companyUrl s.directory id) none, s)

def perform {α : Type} (s : Servers) (a : Action α) : α × Servers :=
  a.run (fun q s => s.answer q) s

end Servers

end Promotions
