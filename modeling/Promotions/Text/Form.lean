import Promotions.Text.Percent
import Promotions.Text.Pieces

/-!
Forms in an address: named values with ampersands between them. A plus sign stands for a blank, and
bytes that are no text become replacement characters.
-/

namespace Promotions.Text

def formText (cs : List Char) : String :=
  String.ofList (ofUtf8Lossy (percentDecode (cs.map fun c => if c = '+' then ' ' else c)))

/-- The named values of a form in order. Without an equals sign the value is empty. -/
def formPairs (cs : List Char) : List (String × String) :=
  ((pieces (· = '&') cs).filter fun part => !part.isEmpty).map fun part =>
    (formText (part.takeWhile (· ≠ '=')), formText ((part.dropWhile (· ≠ '=')).drop 1))

end Promotions.Text
