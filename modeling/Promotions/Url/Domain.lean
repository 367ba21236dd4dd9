import Promotions.Text.Composition
import Promotions.Text.Percent
import Promotions.Text.Pieces
import Promotions.Url.Domain.Folding
import Promotions.Url.Domain.Punycode
import Promotions.Url.Domain.Table

/-!
Domain names: labels with points between them, in any script. A name is first brought into its
normal form, in small letters and composed. The normal form is refused when it holds a character
that names cannot hold, or a label that breaks the rules on Punycode, on combining marks, on joiners
or on direction. Labels may be empty, and those in ASCII of any length.
-/

namespace Promotions.Url

open Text

namespace Domain

/-- The ASCII characters that no name holds: controls, the space, and those with a meaning of their
own in an address. -/
def forbidden (c : Char) : Bool :=
  c.toNat ≤ 0x20 || c == '\x7f' || "#/:<>?@[\\]^|%".toList.contains c

/-- How a character is written in a name; none when it lies beyond ASCII and names cannot hold
it. -/
def fold (c : Char) : Option (List Char) :=
  if c.toNat < 128 then some [c.toLower]
  else if inRanges refused c then none
  else if inRanges omitted c then some []
  else some ((lookUp foldings c).getD [c])

/-- The normal form of a text in names. Characters that names cannot hold may be part of the text
when they are composed with others in its normal form. -/
def normal? (cs : List Char) : Option (List Char) := do
  let text := composed (← cs.mapM fold).flatten
  if text.any forbidden then none else some text

def maxCodeLength : Nat := 2000

def maxLength : Nat := 1000

/-- A label in Unicode, given its normal form. One that starts with `xn--` is written in Punycode:
it stands for a text beyond ASCII, which must be a normal form itself. -/
def unfoldLabel? (label : List Char) : Option (List Char) :=
  match label with
  | 'x' :: 'n' :: '-' :: '-' :: code => do
    if maxCodeLength < code.length || code.any fun c => 128 ≤ c.toNat then none
    let text ← Punycode.decode? code
    if text.any (fun c => 128 ≤ c.toNat) && normal? text = some text
        && text.take 4 != "xn--".toList then
      some text
    else none
  | label => some label

/-- Whether the joiners of a label stand where they may, given the characters before it, nearest
first. A joiner may follow a virama, which is a mark of the ninth class; a non-joiner may also stand
between two characters that would join without it. -/
def joinersFit (before : List Char) : List Char → Bool
  | [] => true
  | c :: cs =>
    let afterVirama := match before with
      | b :: _ => combiningClass b = 9
      | [] => false
    let meets (ranges : List (Nat × Nat)) (cs : List Char) : Bool :=
      match cs.dropWhile (inRanges joinsThrough) with
      | d :: _ => inRanges ranges d
      | [] => false
    (if c = '\u200D' then afterVirama
      else if c = '\u200C' then afterVirama || (meets joinsLeft before && meets joinsRight cs)
      else true) && joinersFit (c :: before) cs

inductive Direction where
  | left
  | right
  | europeanDigit
  | arabicDigit
  | attached
  | neutral
  deriving DecidableEq

def direction (c : Char) : Direction :=
  if c.toNat < 128 then
    if c.isAlpha then .left else if c.isDigit then .europeanDigit else .neutral
  else if inRanges rightToLeft c then .right
  else if inRanges arabicDigits c then .arabicDigit
  else if inRanges europeanDigits c then .europeanDigit
  else if inRanges Url.attached c then .attached
  else if inRanges Url.neutral c then .neutral
  else .left

/-- Whether a label in a name that is written from right to left somewhere keeps to one direction:
its first letter says which, and its end must show it too. -/
def keepsDirection (label : List Char) : Bool :=
  let ds := label.map direction
  let last := (ds.reverse.dropWhile (· = .attached)).head?
  match ds.head? with
  | none => true
  | some .left =>
    ds.all (fun d => d ≠ .right ∧ d ≠ .arabicDigit)
      && (last = some .left || last = some .europeanDigit)
  | some .right =>
    ds.all (· ≠ .left)
      && (last = some .right || last = some .europeanDigit || last = some .arabicDigit)
      && !(ds.contains .europeanDigit && ds.contains .arabicDigit)
  | some _ => false

/-- Whether a label in Unicode keeps the rules on length, combining marks and joiners. -/
def wellFormed (label : List Char) : Bool :=
  match label with
  | [] => true
  | c :: _ =>
    (label.length ≤ maxLength || label.all fun c => c.toNat < 128)
      && !inRanges marks c && joinersFit [] label

def labels (cs : List Char) : List (List Char) := Text.pieces (· = '.') cs

/-- The normal form of a name; none when it is no name. -/
def ofText? (cs : List Char) : Option (List Char) := do
  let name ← normal? cs
  let shown ← (labels name).mapM unfoldLabel?
  let mixed := shown.any fun l => l.any fun c => direction c = .right ∨ direction c = .arabicDigit
  if shown.all wellFormed && (!mixed || shown.all keepsDirection) then some name else none

end Domain

end Promotions.Url
