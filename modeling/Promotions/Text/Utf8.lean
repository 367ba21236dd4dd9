/-!
Characters as bytes in UTF-8, and bytes read back. Reading meets either a character or a defect:
the longest run of bytes that starts a character but does not go on to complete it.
-/

namespace Promotions.Text

def utf8 (s : String) : List UInt8 := s.toList.flatMap String.utf8EncodeChar

/-- What the first byte of a character longer than one byte says: the number of bytes to come, and
the least and greatest value of the next one. -/
def leadByte? (b : UInt8) : Option (Nat × UInt8 × UInt8) :=
  if 0xC2 ≤ b ∧ b ≤ 0xDF then some (1, 0x80, 0xBF)
  else if b = 0xE0 then some (2, 0xA0, 0xBF)
  else if b = 0xED then some (2, 0x80, 0x9F)
  else if 0xE1 ≤ b ∧ b ≤ 0xEF then some (2, 0x80, 0xBF)
  else if b = 0xF0 then some (3, 0x90, 0xBF)
  else if 0xF1 ≤ b ∧ b ≤ 0xF3 then some (3, 0x80, 0xBF)
  else if b = 0xF4 then some (3, 0x80, 0x8F)
  else none

/-- The number that the next `count` bytes complete, if they do, and the bytes after those that
could be used. -/
def trailBytes : (count : Nat) → (low high : UInt8) → Nat → List UInt8 → Option Nat × List UInt8
  | 0, _, _, n, bs => (some n, bs)
  | _ + 1, _, _, _, [] => (none, [])
  | count + 1, low, high, n, b :: bs =>
    if low ≤ b ∧ b ≤ high then trailBytes count 0x80 0xBF (n * 64 + b.toNat % 64) bs
    else (none, b :: bs)

theorem trailBytes_length_le (count : Nat) (low high : UInt8) (n : Nat) (bs : List UInt8) :
    (trailBytes count low high n bs).2.length ≤ bs.length := by
  induction count generalizing low high n bs with
  | zero => simp [trailBytes]
  | succ count ih =>
    cases bs with
    | nil => simp [trailBytes]
    | cons b bs =>
      simp only [trailBytes]
      split
      · exact Nat.le_trans (ih _ _ _ bs) (by simp)
      · simp

/-- The character at the start of a run of bytes, or a defect, and the bytes after it. -/
def decodeFirst (b : UInt8) (bs : List UInt8) : Option Char × List UInt8 :=
  if b < 0x80 then (some (Char.ofNat b.toNat), bs)
  else
    match leadByte? b with
    | none => (none, bs)
    | some (count, low, high) =>
      let r := trailBytes count low high (b.toNat % Nat.pow 2 (6 - count)) bs
      (r.1.map Char.ofNat, r.2)

theorem decodeFirst_length_le (b : UInt8) (bs : List UInt8) :
    (decodeFirst b bs).2.length ≤ bs.length := by
  unfold decodeFirst
  split
  · exact Nat.le_refl _
  · split
    · exact Nat.le_refl _
    · exact trailBytes_length_le _ _ _ _ _

def decodeUtf8 : List UInt8 → List (Option Char)
  | [] => []
  | b :: bs => (decodeFirst b bs).1 :: decodeUtf8 (decodeFirst b bs).2
termination_by bs => bs.length
decreasing_by
  have := decodeFirst_length_le b bs
  simp only [List.length_cons]; omega

def ofUtf8? (bs : List UInt8) : Option (List Char) := (decodeUtf8 bs).mapM id

/-- The text of a run of bytes, with the replacement character for every defect. -/
def ofUtf8Lossy (bs : List UInt8) : List Char := (decodeUtf8 bs).map (·.getD '\uFFFD')

end Promotions.Text
