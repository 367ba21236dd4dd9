import Promotions.Json.Fault
import Promotions.Text.Numeral

/-!
JSON numbers. A number written without point and exponent is an integer when it fits 64 bits, with
a sign or without one; any other number is a float, which must lie within the range of a
double-precision one.
-/

namespace Promotions.Json

open Text

/-- A number as it is written: sign, whole part, fraction, and exponent with its sign. -/
structure Numeral where
  negative : Bool
  whole : List Char
  fraction : Option (List Char)
  exponent : Option (Bool × List Char)

/-- Digits of which there must be one at least. -/
def someDigits (cs : List Char) : Except Fault (List Char × List Char) :=
  match cs.takeWhile Char.isDigit, cs.dropWhile Char.isDigit with
  | [], [] => .error .truncated
  | [], _ => .error .malformed
  | ds, rest => .ok (ds, rest)

/-- The whole part of a number: a zero alone, or digits that do not start with one. -/
def wholePart (cs : List Char) : Except Fault (List Char × List Char) := do
  let (ds, rest) ← someDigits cs
  match ds with
  | '0' :: _ :: _ => .error .malformed
  | _ => .ok (ds, rest)

def fractionPart : Reader (Option (List Char))
  | '.' :: rest => do
    let (ds, rest) ← someDigits rest
    .ok (some ds, rest)
  | cs => .ok (none, cs)

def exponentPart : Reader (Option (Bool × List Char))
  | c :: rest =>
    if c = 'e' ∨ c = 'E' then do
      let (negative, rest) := match rest with
        | '+' :: rest => (false, rest)
        | '-' :: rest => (true, rest)
        | rest => (false, rest)
      let (ds, rest) ← someDigits rest
      .ok (some (negative, ds), rest)
    else .ok (none, c :: rest)
  | [] => .ok (none, [])

def numeral : Reader Numeral := fun cs => do
  let (negative, cs) := match cs with
    | '-' :: rest => (true, rest)
    | cs => (false, cs)
  let (whole, cs) ← wholePart cs
  let (fraction, cs) ← fractionPart cs
  let (exponent, cs) ← exponentPart cs
  .ok (⟨negative, whole, fraction, exponent⟩, cs)

/-- The rest of a text after a number that is not kept. A number that is broken off is malformed. -/
def skipNumeral (cs : List Char) : Except Fault (List Char) :=
  match numeral cs with
  | .ok (_, rest) => .ok rest
  | .error _ => .error .malformed

/-- Digits taken into a significand of 64 bits, after `n`, with the number of those that found no
room. Once one does not fit, none of the digits after it is taken. -/
def takeDigits : Nat → List Char → Nat × Nat
  | n, [] => (n, 0)
  | n, d :: ds =>
    let n' := n * 10 + decimalValue [d]
    if (n' : Int) ≤ maxWord64 then takeDigits n' ds else (n, ds.length + 1)

/-- The nearest number to `n` with 53 significant binary digits; of two, the one whose last such
digit is zero. -/
def nearestDouble (n : Nat) : Nat :=
  if n < Nat.pow 2 53 then n
  else
    let unit := Nat.pow 2 (n.log2 - 52)
    let q := n / unit
    let r := n % unit
    (if 2 * r < unit || (2 * r == unit && q % 2 == 0) then q else q + 1) * unit

/-- The least number that is rounded to infinity. -/
def doubleOverflow : Nat := Nat.pow 2 1024 - Nat.pow 2 970

namespace Numeral

/-- The number as a significand of 64 bits and a power of ten. -/
def scientific (n : Numeral) : Nat × Int :=
  let (s, dropped) := takeDigits 0 n.whole
  let fraction := n.fraction.getD []
  let (s, unused) := takeDigits s fraction
  let e : Int := (dropped : Int) - ((fraction.length - unused : Nat) : Int)
  match n.exponent with
  | none => (s, e)
  | some (true, ds) => (s, e - decimalValue ds)
  | some (false, ds) => (s, e + decimalValue ds)

def outOfRange (n : Numeral) : Bool :=
  let (s, e) := n.scientific
  s ≠ 0 && 0 ≤ e &&
    (308 < e || doubleOverflow ≤ nearestDouble s * nearestDouble (Nat.pow 10 e.toNat))

/-- The number as an integer, if it is one. Minus zero is not. -/
def integer? (n : Numeral) : Option Int :=
  if n.fraction.isSome || n.exponent.isSome then none
  else
    let v : Int := decimalValue n.whole
    if n.negative then (if v ≠ 0 ∧ minInt64 ≤ -v then some (-v) else none)
    else if v ≤ maxWord64 then some v else none

end Numeral

/-- A number that is kept: within range. -/
def keptNumeral : Reader Numeral := fun cs => do
  let (n, rest) ← numeral cs
  if n.outOfRange then .error .malformed else .ok (n, rest)

end Promotions.Json
