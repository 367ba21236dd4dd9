import Promotions.Json.Sequence

/-!
JSON values of any shape: reading one to keep it, passing over one, and writing one without white
space.
-/

namespace Promotions.Json

open Text

/-- A JSON value. A number is `mantissa` times ten to the power `exponent`; an object keeps its
members in order, repeated names included. -/
inductive Value where
  | null
  | bool (b : Bool)
  | number (mantissa exponent : Int)
  | text (s : String)
  | array (items : List Value)
  | object (members : List (String × Value))

namespace Value

def int (n : Int) : Value := .number n 0

def orNull : Option Value → Value := (·.getD .null)

def get? : Value → String → Option Value
  | .object ms, name => (ms.find? (·.1 == name)).map (·.2)
  | _, _ => none

mutual

def render : Value → List Char
  | .null => "null".toList
  | .bool true => "true".toList
  | .bool false => "false".toList
  | .number m e => signedDecimal m ++ (if e = 0 then [] else 'e' :: signedDecimal e)
  | .text s => quote s
  | .array vs => '[' :: renderItems vs ++ [']']
  | .object ms => '\x7b' :: renderMembers ms ++ ['\x7d']

def renderItems : List Value → List Char
  | [] => []
  | [v] => v.render
  | v :: vs => v.render ++ ',' :: renderItems vs

def renderMembers : List (String × Value) → List Char
  | [] => []
  | [(k, v)] => quote k ++ ':' :: v.render
  | (k, v) :: ms => quote k ++ ':' :: v.render ++ ',' :: renderMembers ms

end

def print (v : Value) : String := String.ofList v.render

end Value

def Numeral.value (n : Numeral) : Value :=
  let (s, e) := n.scientific
  .number (if n.negative then -s else s) e

/-- A value told apart by its first character. The literals give `leaf` their value; strings are
read after their opening quote, numbers, arrays and objects from their first character on. -/
def dispatch {α : Type} (leaf : Value → α) (number text nested : Reader α) : Reader α := fun cs =>
  match skipGaps cs with
  | [] => .error .truncated
  | c :: rest =>
    if c = 'n' then do .ok (leaf .null, ← word "ull".toList rest)
    else if c = 't' then do .ok (leaf (.bool true), ← word "rue".toList rest)
    else if c = 'f' then do .ok (leaf (.bool false), ← word "alse".toList rest)
    else if c = '"' then text rest
    else if c = '-' ∨ c.isDigit then number (c :: rest)
    else if c = '[' ∨ c = '\x7b' then nested (c :: rest)
    else .error .malformed

def keptNumber : Reader Value := fun cs => do
  let (n, rest) ← keptNumeral cs
  .ok (n.value, rest)

def keptText : Reader Value := fun cs => do
  let (s, rest) ← textBody cs
  .ok (.text s, rest)

/-- A value that is kept, with at most `levels` arrays and objects inside one another. -/
def value : (levels : Nat) → Reader Value
  | 0 => dispatch id keptNumber keptText fun _ => .error .malformed
  | levels + 1 => dispatch id keptNumber keptText fun cs =>
    match cs with
    | '[' :: rest => do
      let item (vs : List Value) : Reader (List Value) := fun cs => do
        let (v, cs) ← value levels cs
        .ok (v :: vs, cs)
      let (vs, rest) ← arrayRest item (rest.length + 1) true [] rest
      .ok (.array vs.reverse, rest)
    | _ :: rest => do
      let member (k : String) (ms : List (String × Value)) :
          Except Fault (Reader (List (String × Value))) := .ok fun cs => do
        let (v, cs) ← value levels cs
        .ok ((k, v) :: ms, cs)
      let (ms, rest) ← objectRest textBody member (rest.length + 1) true [] rest
      .ok (.object ms.reverse, rest)
    | [] => .error .truncated

def skippedNumber : Reader Unit := fun cs => do .ok ((), ← skipNumeral cs)

def skippedText : Reader Unit := fun cs => do .ok ((), ← skipTextBody cs)

/-- Passing over a value with fewer than `bound` arrays and objects inside one another, and fewer
than `bound` items in each. -/
def skipWithin : (bound : Nat) → Reader Unit
  | 0 => fun _ => .error .malformed
  | bound + 1 => dispatch (fun _ => ()) skippedNumber skippedText fun cs =>
    match cs with
    | '[' :: rest => arrayRest (fun _ => skipWithin bound) bound true () rest
    | _ :: rest => objectRest skippedText (fun _ _ => .ok (skipWithin bound)) bound true () rest
    | [] => .error .truncated

/-- The rest of a text after a value that is not kept. Its arrays and objects may lie inside one
another to any depth: there are no more of them, and of their items, than characters. -/
def skipValue (cs : List Char) : Except Fault (List Char) := do
  let ((), rest) ← skipWithin (cs.length + 1) cs
  .ok rest

end Promotions.Json
