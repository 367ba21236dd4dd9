import Promotions.Text.CharSet

/-!
Maps from characters to texts, as runs of characters whose texts differ in the first character only,
and the written form of a run: its characters as a range, the sign `/` and the step when it is not
one, the sign `>`, and the code points of the first character's text with points between them.
-/

namespace Promotions.Text

/-- Every `step`-th character from `first` to `last`. The first one stands for `lead` and then
`rest`; for each of the others, `lead` moves on as far as the character itself. -/
structure CharRun where
  first : Nat
  last : Nat
  step : Nat
  lead : Nat
  rest : List Nat

namespace CharRun

def covers (r : CharRun) (point : Nat) : Bool :=
  r.first ≤ point && point ≤ r.last && (point - r.first) % r.step == 0

def text? (c : Char) (r : CharRun) : Option (List Char) :=
  if r.covers c.toNat then
    some (Char.ofNat (r.lead + (c.toNat - r.first)) :: r.rest.map Char.ofNat)
  else none

/-- The character of the run that stands for two given ones. -/
def pair? (a b : Char) (r : CharRun) : Option Char :=
  let point := r.first + (a.toNat - r.lead)
  if r.rest = [b.toNat] ∧ r.lead ≤ a.toNat ∧ r.covers point then some (Char.ofNat point) else none

def ofWord? (word : String) : Option CharRun :=
  match word.splitOn ">" with
  | [chars, text] =>
    let (chars, step) := match chars.splitOn "/" with
      | [chars, step] => (chars, hexadecimal step)
      | _ => (chars, 1)
    let (first, last) := range chars
    match (text.splitOn ".").map hexadecimal with
    | lead :: rest => some ⟨first, last, step, lead, rest⟩
    | [] => none
  | _ => none

end CharRun

def charRuns (lines : List String) : List CharRun :=
  lines.flatMap fun line => (line.splitOn " ").filterMap CharRun.ofWord?

def lookUp (runs : List CharRun) (c : Char) : Option (List Char) :=
  runs.findSome? (CharRun.text? c)

end Promotions.Text
