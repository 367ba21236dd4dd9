import Promotions.Text.Pieces

/-!
The paths that the service knows, and the methods that each of them knows.
-/

namespace Promotions.Http

/-- What a path stands for. A segment that names a promotion is not decoded yet. -/
inductive Route where
  | health
  | document
  | promotions
  | promotion (id : List Char)
  | activation (id : List Char)
  deriving DecidableEq

namespace Route

def segments (path : List Char) : List (List Char) :=
  match path with
  | '/' :: rest => Text.pieces (· = '/') rest
  | _ => []

/-- What a path stands for. Paths are written exactly so; a slash at the end makes another path. -/
def ofPath? (path : List Char) : Option Route :=
  match (segments path).map String.ofList with
  | ["api", "health"] => some .health
  | ["api-docs", "openapi.json"] => some .document
  | ["api", "promos"] => some .promotions
  | ["api", "promos", id] => if id.isEmpty then none else some (.promotion id.toList)
  | ["api", "promos", id, "activate"] => if id.isEmpty then none else some (.activation id.toList)
  | _ => none

/-- The methods that a path knows. Where something can be fetched, its head can too. -/
def methods : Route → List String
  | .health | .document => ["GET", "HEAD"]
  | .promotions => ["POST", "GET", "HEAD"]
  | .promotion _ => ["GET", "HEAD", "PATCH", "DELETE"]
  | .activation _ => ["POST"]

end Route

end Promotions.Http
