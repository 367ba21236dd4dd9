import Promotions.Json.Text
import Promotions.Json.Number

/-!
The separators of JSON arrays and objects, for any reader of what stands between them. The readers
here carry a state through the items, so that the same rules serve values that are kept, values
that are passed over, and records whose members are told apart by name. Their first argument bounds
the number of items; the length of the text is always enough.
-/

namespace Promotions.Json

variable {κ σ : Type}

/-- What follows in an array or object: its end, or another item. -/
inductive Next where
  /-- The closing bracket or brace; the text after it. -/
  | close (rest : List Char)
  /-- Another item; the text from its first character on. -/
  | item (rest : List Char)

/-- What follows in a sequence that ends with `last`: an item stands first or behind a comma, and a
comma does not stand before the end. -/
def next (last : Char) (first : Bool) (cs : List Char) : Except Fault Next :=
  match skipGaps cs with
  | [] => .error .truncated
  | c :: rest =>
    if c = last then .ok (.close rest)
    else if first then .ok (.item (c :: rest))
    else if c = ',' then
      match skipGaps rest with
      | [] => .error .truncated
      | d :: more => if d = last then .error .malformed else .ok (.item (d :: more))
    else .error .malformed

def arrayRest (item : σ → Reader σ) : (bound : Nat) → (first : Bool) → σ → Reader σ
  | 0, _, _, _ => .error .malformed
  | bound + 1, first, s, cs => do
    match ← next ']' first cs with
    | .close rest => .ok (s, rest)
    | .item cs =>
      let (s, cs) ← item s cs
      arrayRest item bound false s cs

/-- The members of an object up to its closing brace. What is done with a member is decided when
its name has been read, before the colon. -/
def objectRest (key : Reader κ) (member : κ → σ → Except Fault (Reader σ)) :
    (bound : Nat) → (first : Bool) → σ → Reader σ
  | 0, _, _, _ => .error .malformed
  | bound + 1, first, s, cs => do
    match ← next '\x7d' first cs with
    | .close rest => .ok (s, rest)
    | .item ('"' :: cs) =>
      let (k, cs) ← key cs
      let read ← member k s
      let cs ← colon cs
      let (s, cs) ← read cs
      objectRest key member bound false s cs
    | .item _ => .error .malformed

end Promotions.Json
