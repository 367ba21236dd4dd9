/-!
What can be wrong with a JSON text that is read as a value of a given shape, and the form of the
readers: a reader takes a text and gives what it read with the rest of the text. Texts are read
once from left to right, so the first problem met is the one reported.
-/

namespace Promotions.Json

inductive Fault where
  /-- The text is not JSON, or holds what JSON values here cannot hold. -/
  | malformed
  /-- The text ends before the value does. -/
  | truncated
  /-- The value is JSON, but not of the shape that is wanted. -/
  | mismatch
  deriving DecidableEq

/-- A reader of a value: the value with the rest of the text, or the first fault. -/
abbrev Reader (α : Type) := List Char → Except Fault (α × List Char)

def isGap (c : Char) : Bool := c == ' ' || c == '\n' || c == '\t' || c == '\r'

def skipGaps (cs : List Char) : List Char := cs.dropWhile isGap

/-- The rest of a text that starts with the given word. -/
def word : List Char → List Char → Except Fault (List Char)
  | [], cs => .ok cs
  | _ :: _, [] => .error .truncated
  | w :: ws, c :: cs => if c = w then word ws cs else .error .malformed

/-- The rest of a text after the colon between a member's name and its value. -/
def colon (cs : List Char) : Except Fault (List Char) :=
  match skipGaps cs with
  | ':' :: rest => .ok rest
  | [] => .error .truncated
  | _ => .error .malformed

end Promotions.Json
