import Promotions.Json.Value
import Promotions.Text.Numeral

/-!
Pointers into JSON values: names of members and positions of items, each behind a slash. A slash in
a name is written `~1`, and a tilde `~0`.
-/

namespace Promotions.Json

open Text

def unescapePointer : List Char → List Char
  | '~' :: '1' :: cs => '/' :: unescapePointer cs
  | '~' :: '0' :: cs => '~' :: unescapePointer cs
  | c :: cs => c :: unescapePointer cs
  | [] => []

/-- The position that a text writes, without a sign or leading zeros. -/
def position? (s : String) : Option Nat :=
  match s.toList with
  | [] => none
  | ['0'] => some 0
  | '0' :: _ => none
  | ds => if ds.all Char.isDigit then some (decimalValue ds) else none

namespace Value

/-- The value that a member or an item of this value has. -/
def step? (v : Value) (name : String) : Option Value :=
  match v with
  | .array items => (position? name).bind fun i => items[i]?
  | v => v.get? name

def at? (v : Value) (pointer : String) : Option Value :=
  match pointer.splitOn "/" with
  | "" :: names =>
    names.foldlM (fun v name => v.step? (String.ofList (unescapePointer name.toList))) v
  | _ => none

def names? : Value → Option (List String)
  | .object members => some (members.map (·.1))
  | _ => none

end Value

end Promotions.Json
