import Promotions.Text.Numeral
import Promotions.Text.Utf8

/-!
Percent-encoding: a byte as a percent sign with two hexadecimal digits. A percent sign that no two
digits follow stands for itself.
-/

namespace Promotions.Text

/-- The bytes of a text in which escapes are resolved. -/
def percentDecode : List Char → List UInt8
  | [] => []
  | '%' :: a :: b :: cs =>
    match hexValue? a, hexValue? b with
    | some high, some low => UInt8.ofNat (high * 16 + low) :: percentDecode cs
    | _, _ => 0x25 :: percentDecode (a :: b :: cs)
  | c :: cs => String.utf8EncodeChar c ++ percentDecode cs

def percentEscape (b : UInt8) : List Char := '%' :: (fixedHex 2 b.toNat).map Char.toUpper

/-- A text with the bytes of those characters escaped that the given set holds. -/
def percentEncode (escaped : Char → Bool) (cs : List Char) : List Char :=
  cs.flatMap fun c => if escaped c then (String.utf8EncodeChar c).flatMap percentEscape else [c]

end Promotions.Text
