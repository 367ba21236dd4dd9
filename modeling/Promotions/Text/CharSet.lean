import Promotions.Text.Numeral

/-!
Sets of characters as ranges of code points, and their written form: hexadecimal numbers, each for
one character or, with a hyphen between two, for a range, and blanks between them.
-/

namespace Promotions.Text

def inRanges (ranges : List (Nat × Nat)) (c : Char) : Bool :=
  ranges.any fun (lo, hi) => lo ≤ c.toNat && c.toNat ≤ hi

/-- The number that hexadecimal digits write; characters that are no digits count as zero. -/
def hexadecimal (s : String) : Nat := valueFrom 16 0 (s.toList.map fun c => (hexValue? c).getD 0)

def range (word : String) : Nat × Nat :=
  match word.splitOn "-" with
  | [first, last] => (hexadecimal first, hexadecimal last)
  | _ => (hexadecimal word, hexadecimal word)

def ranges (lines : List String) : List (Nat × Nat) :=
  lines.flatMap fun line => (line.splitOn " ").map range

end Promotions.Text
