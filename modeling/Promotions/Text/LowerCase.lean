import Promotions.Text.CharSet
import Promotions.Text.LowerCase.Table

/-!
Full lower-casing of a text. A character is lowered by itself, save for the capital sigma, whose
small letter depends on the letters around it, and for the capital I with a dot, which becomes two
characters.
-/

namespace Promotions.Text

/-- A letter with case: in ASCII, any letter. -/
def isCased (c : Char) : Bool :=
  if c.toNat < 128 then c.isAlpha else inRanges casedRanges c

/-- The ASCII marks that are skipped when looking for a cased letter. -/
def asciiCaseIgnorable : List Char := ['\'', '.', ':', '^', '\x60']

def isCaseIgnorable (c : Char) : Bool :=
  if c.toNat < 128 then asciiCaseIgnorable.contains c else inRanges caseIgnorableRanges c

/-- The small letter of a capital one; any other character is its own. -/
def lowerChar (c : Char) : Char :=
  if c.toNat < 128 then c.toLower
  else
    match capitalRuns.find? fun r =>
        r.first ≤ c.toNat && c.toNat ≤ r.last && (c.toNat - r.first) % r.step == 0 with
    | some r => Char.ofNat (c.toNat + r.distance).toNat
    | none => c

/-- Whether the next character that is not skipped is a letter with case. -/
def meetsCased (cs : List Char) : Bool :=
  match cs.dropWhile isCaseIgnorable with
  | c :: _ => isCased c
  | [] => false

/-- The small letters of a character between its neighbours, the ones before it nearest first. A
capital sigma at the end of a word takes its final form. -/
def lowerBetween (before : List Char) (c : Char) (after : List Char) : List Char :=
  if c = '\u03A3' then
    [if meetsCased before && !meetsCased after then '\u03C2' else '\u03C3']
  else if c = '\u0130' then ['i', '\u0307']
  else [lowerChar c]

/-- Lower-casing after the characters `before`, nearest first. -/
def lowerFrom (before : List Char) : List Char → List Char
  | [] => []
  | c :: after => lowerBetween before c after ++ lowerFrom (c :: before) after

def lowerCase (s : String) : String := String.ofList (lowerFrom [] s.toList)

end Promotions.Text
