import Promotions.Text.Form
import Promotions.Url.Basic

/-!
Where the cache's server is: an address in one of the schemes for it, with the number of the
database in its path.
-/

namespace Promotions.Redis

open Text

inductive Endpoint where
  | network (host : Url.Host) (port : Nat)
  | socket (path : List Char)

structure Address where
  endpoint : Endpoint
  database : Int
  username : Option String
  password : Option String

inductive AddressFault where
  /-- It is no address, or one in another scheme. -/
  | notParsed
  | noHost
  | noPath
  /-- Encrypted connections are not supported. -/
  | encrypted
  | database
  | username
  | password
  /-- The protocol version is unknown. -/
  | protocol (version : String)
  deriving DecidableEq

def AddressFault.message : AddressFault → String
  | .notParsed => "Redis URL did not parse- InvalidClientConfig"
  | .noHost => "Missing hostname- InvalidClientConfig"
  | .noPath => "Missing path- InvalidClientConfig"
  | .encrypted => "can't connect with TLS, the feature is not enabled- InvalidClientConfig"
  | .database => "Invalid database number- InvalidClientConfig"
  | .username => "Username is not valid UTF-8 string- InvalidClientConfig"
  | .password => "Password is not valid UTF-8 string- InvalidClientConfig"
  | .protocol version => "Invalid protocol version - InvalidClientConfig: " ++ version

namespace Address

def defaultPort : Nat := 6379

def databaseNumber (cs : List Char) : Except AddressFault Int :=
  match Text.integer minInt64 maxInt64 cs with
  | .ok n => .ok n
  | .error _ => .error .database

/-- The value that a query gives last to a name. -/
def option? (options : List (String × String)) (name : String) : Option String :=
  (options.reverse.find? (·.1 == name)).map (·.2)

def checkProtocol (options : List (String × String)) : Except AddressFault Unit :=
  match option? options "protocol" with
  | none => .ok ()
  | some v => if ["2", "resp2", "3", "resp3"].contains v then .ok () else .error (.protocol v)

/-- A user name or password, which is absent when empty. -/
def credential (fault : AddressFault) (cs : List Char) : Except AddressFault (Option String) :=
  if cs.isEmpty then .ok none
  else
    match ofUtf8? (percentDecode cs) with
    | some text => .ok (some (String.ofList text))
    | none => .error fault

def ofNetwork (u : Url) : Except AddressFault Address :=
  match u.host with
  | none => .error .noHost
  | some host => do
    if u.scheme = "rediss".toList then .error .encrypted
    let isSlash (c : Char) : Bool := c = '/'
    let number := (((u.path.text).dropWhile isSlash).reverse.dropWhile isSlash).reverse
    let database ← if number.isEmpty then .ok 0 else databaseNumber number
    let username ← credential .username u.username
    let password ← credential .password u.password
    checkProtocol (formPairs (u.query.getD []))
    .ok ⟨.network host (u.port.getD defaultPort), database, username, password⟩

/-- A server on this machine, known by a path. -/
def ofSocket (u : Url) : Except AddressFault Address := do
  let options := formPairs (u.query.getD [])
  match u.path with
  | .opaqueText _ | .segments [] => .error .noPath
  | path =>
    if u.host.any fun h => h ≠ .name "localhost".toList then .error .noPath
    let database ← match option? options "db" with
      | none => .ok 0
      | some s => databaseNumber s.toList
    checkProtocol options
    .ok ⟨.socket path.text, database, option? options "user", option? options "pass"⟩

def ofString (s : String) : Except AddressFault Address :=
  match Url.ofString? s with
  | none => .error .notParsed
  | some u =>
    if u.scheme = "redis".toList ∨ u.scheme = "rediss".toList then ofNetwork u
    else if u.scheme = "unix".toList ∨ u.scheme = "redis+unix".toList then ofSocket u
    else .error .notParsed

end Address

end Promotions.Redis
