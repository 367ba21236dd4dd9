/-!
Decimal and hexadecimal numerals. Digits are the ASCII ones only.
-/

namespace Promotions.Text

def digitValue? (c : Char) : Option Nat :=
  if c.isDigit then some (c.toNat - '0'.toNat) else none

def hexValue? (c : Char) : Option Nat :=
  if c.isDigit then some (c.toNat - '0'.toNat)
  else if 'a' ≤ c ∧ c ≤ 'f' then some (c.toNat - 'a'.toNat + 10)
  else if 'A' ≤ c ∧ c ≤ 'F' then some (c.toNat - 'A'.toNat + 10)
  else none

/-- The number that a run of digits writes in the given base, after the digits of `start`. -/
def valueFrom (base : Nat) (start : Nat) (digits : List Nat) : Nat :=
  digits.foldl (fun n d => n * base + d) start

/-- The number that a run of decimal digits writes; characters that are no digits count as zero. -/
def decimalValue (cs : List Char) : Nat :=
  valueFrom 10 0 (cs.map fun c => (digitValue? c).getD 0)

def digitChar (n : Nat) : Char := Char.ofNat ('0'.toNat + n % 10)

def hexChar (n : Nat) : Char :=
  let d := n % 16
  if d < 10 then Char.ofNat ('0'.toNat + d) else Char.ofNat ('a'.toNat + (d - 10))

/-- The last `width` decimal digits of a number, leading zeros included. -/
def fixedDecimal : (width : Nat) → Nat → List Char
  | 0, _ => []
  | w + 1, n => fixedDecimal w (n / 10) ++ [digitChar n]

/-- The last `width` hexadecimal digits of a number, leading zeros included. -/
def fixedHex : (width : Nat) → Nat → List Char
  | 0, _ => []
  | w + 1, n => fixedHex w (n / 16) ++ [hexChar n]

def decimal (n : Nat) : List Char := (Nat.repr n).toList

def signedDecimal : Int → List Char
  | .ofNat n => decimal n
  | .negSucc n => '-' :: decimal (n + 1)

inductive NumeralFault where
  | empty
  | badDigit
  | tooLarge
  | tooSmall
  deriving DecidableEq

def NumeralFault.message : NumeralFault → String
  | .empty => "cannot parse integer from empty string"
  | .badDigit => "invalid digit found in string"
  | .tooLarge => "number too large to fit in target type"
  | .tooSmall => "number too small to fit in target type"

/-- The digits of an integer after its sign, read one by one: a digit that leads out of bounds is
a fault before a later character that is no digit. -/
def integerDigits (sign : Int) (low high : Int) : Int → List Char → Except NumeralFault Int
  | n, [] => .ok n
  | n, c :: cs =>
    match digitValue? c with
    | none => .error .badDigit
    | some d =>
      let n' := n * 10 + sign * d
      if high < n' then .error .tooLarge
      else if n' < low then .error .tooSmall
      else integerDigits sign low high n' cs

/-- An integer between `low` and `high` with an optional sign. A minus sign is allowed only where
negative numbers are; a sign alone is not a number. -/
def integer (low high : Int) (cs : List Char) : Except NumeralFault Int :=
  match cs with
  | [] => .error .empty
  | ['+'] => .error .badDigit
  | ['-'] => .error .badDigit
  | '+' :: ds => integerDigits 1 low high 0 ds
  | '-' :: ds => if low < 0 then integerDigits (-1) low high 0 ds else .error .badDigit
  | ds => integerDigits 1 low high 0 ds

def minInt64 : Int := -9223372036854775808

def maxInt64 : Int := 9223372036854775807

def maxWord64 : Int := 18446744073709551615

end Promotions.Text
