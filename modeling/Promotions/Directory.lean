import Promotions.Failure
import Promotions.Json.Shape
import Promotions.Url.Basic
import Promotions.Uuid

/-!
The directory of companies, which is asked for a company's name over the network. Only the status
that says so means that there is no such company; a reply without a name, and no reply, are
failures of the directory.
-/

namespace Promotions.Directory

open Json

structure Reply where
  status : Nat
  body : String

structure Company where
  name : String

inductive Field where
  | name
  deriving DecidableEq

def shape : Shape Field (fun _ => String) Company where
  fields := [.name]
  name _ := "name"
  read _ _ := text
  absent _ := .required
  assemble f := (f .name).map Company.mk

/-- The address of a company under that of the directory, whose last slashes do not count. -/
def companyUrl (base : String) (id : Uuid) : String :=
  let base := (base.toList.reverse.dropWhile (· = '/')).reverse
  String.ofList base ++ "/api/companies/" ++ toString id

/-- The characters that the name of a host may have in an address but not in a request. -/
def breaksRequest (c : Char) : Bool := "\"\x60\x7b\x7d".toList.contains c

def isReachable : Url.Host → Bool
  | .name text => !text.any breaksRequest
  | .ipv4 _ | .ipv6 _ => true

def webSchemes : List String := ["http", "https"]

/-- The first line of the request for a company; none if there can be no request to the address. -/
def requestLine? (base : String) (id : Uuid) : Option String := do
  let url ← Url.ofString? (companyUrl base id)
  if webSchemes.contains (String.ofList url.scheme) && url.host.all isReachable then
    some ("GET " ++ String.ofList url.target ++ " HTTP/1.1")
  else none

/-- Whether a reply of this status has a body. A status has three digits. -/
def hasBody (status : Nat) : Bool :=
  200 ≤ status && status < 1000 && status ≠ 204 && status ≠ 304

inductive Trouble where
  | notSent
  /-- The status says that the request or the server is at fault. -/
  | status (code : Nat)
  /-- The body is no record of a company. -/
  | body

def Trouble.message : Trouble → String
  | .notSent => "error sending request"
  | .status code =>
    "HTTP status " ++ (if code < 500 then "client" else "server") ++ " error (" ++ toString code
      ++ ")"
  | .body => "error decoding response body"

def Trouble.failure (t : Trouble) (url : String) : Failure :=
  .directory (t.message ++ " for url (" ++ url ++ ")")

/-- The name of a company by the reply to the request to the given address, if there was one. -/
def name (url : String) : Option Reply → Except Failure String
  | none => .error (Trouble.notSent.failure url)
  | some r =>
    if r.status = 404 then .error .companyNotFound
    else if 400 ≤ r.status ∧ r.status < 600 then .error ((Trouble.status r.status).failure url)
    else if hasBody r.status then
      match parse shape.reader r.body with
      | .ok company => .ok company.name
      | .error _ => .error (Trouble.body.failure url)
    else .error (Trouble.body.failure url)

/-- The name of a company by the reply that the directory has for a request, if it has one. Without
a request there is none. -/
def companyName (base : String) (id : Uuid) (reply : Option Reply) : Except Failure String :=
  name (companyUrl base id) (if (requestLine? base id).isSome then reply else none)

end Promotions.Directory
