import Promotions.Failure
import Promotions.Json.Value

/-!
Requests to the service and its responses.
-/

namespace Promotions.Http

open Json

structure Request where
  method : String
  /-- What is asked for: a path, and possibly a query after a question mark. A whole address may
  stand in place of its path. -/
  target : String
  headers : List (String × String) := []
  body : String := ""

namespace Request

/-- The target without scheme and authority, if it has them. -/
def withoutOrigin (r : Request) : List Char :=
  let cs := r.target.toList
  match cs.dropWhile fun c => c.isAlphanum || "+-.".toList.contains c with
  | ':' :: '/' :: '/' :: rest => rest.dropWhile fun c => c ≠ '/' && c ≠ '?' && c ≠ '#'
  | _ => cs

def withoutFragment (r : Request) : List Char := r.withoutOrigin.takeWhile (· ≠ '#')

def path (r : Request) : List Char := r.withoutFragment.takeWhile (· ≠ '?')

def query (r : Request) : List Char := (r.withoutFragment.dropWhile (· ≠ '?')).drop 1

/-- The values of a header, whose name may be written in any letter case. -/
def valuesOf (r : Request) (name : String) : List String :=
  (r.headers.filter fun h => h.1.map Char.toLower = name).map (·.2)

end Request

/-- Whether a header's value is readable: printable ASCII and tabs only. -/
def readableValue (s : String) : Bool :=
  s.toList.all fun c => c = '\t' || (0x20 ≤ c.toNat && c.toNat ≤ 0x7E)

inductive Body where
  | empty
  | json (v : Value)
  | text (s : String)

structure Response where
  status : Nat
  /-- The length of the listing that the body shows a page of. -/
  totalCount : Option Int := none
  /-- The methods that the path knows. -/
  allow : Option (List String) := none
  body : Body := .empty

namespace Response

def ofJson (status : Nat) (v : Value) : Response := { status, body := .json v }

def ofText (status : Nat) (s : String) : Response := { status, body := .text s }

def ofFailure (f : Failure) : Response := ofJson f.status f.body

def headOnly (r : Response) : Response := { r with body := .empty }

end Response

end Promotions.Http
