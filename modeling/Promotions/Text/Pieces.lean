/-!
Texts taken apart at separators. A text without separators is one piece.
-/

namespace Promotions.Text

def pieces (separates : Char → Bool) : List Char → List (List Char)
  | [] => [[]]
  | c :: cs =>
    if separates c then [] :: pieces separates cs
    else (pieces separates cs).modifyHead (c :: ·)

end Promotions.Text
