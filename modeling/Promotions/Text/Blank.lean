/-!
White space and trimming. A character is blank when Unicode gives it the White_Space property;
zero-width characters and the separators U+001C to U+001F are not blank.
-/

namespace Promotions.Text

/-- The characters with the White_Space property. -/
def isBlank (c : Char) : Bool :=
  let n := c.toNat
  (9 ≤ n && n ≤ 13) || n == 0x20 || n == 0x85 || n == 0xA0 || n == 0x1680
    || (0x2000 ≤ n && n ≤ 0x200A) || n == 0x2028 || n == 0x2029 || n == 0x202F
    || n == 0x205F || n == 0x3000

def trimLeft (cs : List Char) : List Char := cs.dropWhile isBlank

def trimRight (cs : List Char) : List Char := (cs.reverse.dropWhile isBlank).reverse

def trim (s : String) : String := String.ofList (trimRight (trimLeft s.toList))

/-- A text is blank when nothing is left of it after trimming. -/
def blank (s : String) : Bool := s.toList.all isBlank

/-- An optional text in which a blank one counts as absent. Texts that are kept are not trimmed. -/
def blankToNone (s : Option String) : Option String := s.filter fun t => !blank t

end Promotions.Text
