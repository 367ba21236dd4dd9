/-!
Punycode: a text beyond ASCII as ASCII letters, digits and hyphens. The ASCII characters come
first; the others follow as insertions in the order of their code points, each as a distance from
the insertion before it in a numeral of base 36 that marks its own end.
-/

namespace Promotions.Url.Punycode

/-- The value of a digit: letters stand for 0 to 25, decimal digits for 26 to 35. -/
def digit? (c : Char) : Option Nat :=
  if 'a' ≤ c ∧ c ≤ 'z' then some (c.toNat - 'a'.toNat)
  else if 'A' ≤ c ∧ c ≤ 'Z' then some (c.toNat - 'A'.toNat)
  else if c.isDigit then some (c.toNat - '0'.toNat + 26)
  else none

/-- A digit below the threshold of its place ends the numeral. -/
def threshold (place bias : Nat) : Nat :=
  if place ≤ bias then 1 else if bias + 26 ≤ place then 26 else place - bias

/-- The part of a distance that is left once it fits the range of short numerals, with the number
of places that were cut off. -/
def shrink (places delta : Nat) : Nat × Nat :=
  if 455 < delta then shrink (places + 36) (delta / 35) else (places, delta)
termination_by delta
decreasing_by omega

/-- The bias for the numeral after one of the given distance in a text that has grown to `count`
characters. -/
def adapt (delta count : Nat) (first : Bool) : Nat :=
  let delta := if first then delta / 700 else delta / 2
  let (places, delta) := shrink 0 (delta + delta / count)
  places + 36 * delta / (delta + 38)

/-- A numeral added to `sum`, where a digit of the present place counts `weight` times. -/
def numeral (bias : Nat) : (sum weight place : Nat) → List Char → Option (Nat × List Char)
  | _, _, _, [] => none
  | sum, weight, place, c :: cs => do
    let d ← digit? c
    let sum := sum + d * weight
    let t := threshold place bias
    if d < t then some (sum, cs) else numeral bias sum (weight * (36 - t)) (place + 36) cs

theorem numeral_shorter {bias sum weight place n : Nat} {cs rest : List Char}
    (h : numeral bias sum weight place cs = some (n, rest)) : rest.length < cs.length := by
  induction cs generalizing sum weight place with
  | nil => simp [numeral] at h
  | cons c cs ih =>
    cases hd : digit? c with
    | none => simp [numeral, hd] at h
    | some d =>
      simp only [numeral, hd, Option.bind_eq_bind, Option.bind_some] at h
      split at h
      · cases h; simp
      · have := ih h
        simp only [List.length_cons]; omega

/-- The insertions that are left, made in a text whose next one counts from position `at` and code
point `point`. -/
def insertions (text : List Char) (point position bias : Nat) (cs : List Char) :
    Option (List Char) :=
  if cs.isEmpty then some text
  else
    match _h : numeral bias position 1 36 cs with
    | none => none
    | some (sum, rest) =>
      let count := text.length + 1
      let point := point + sum / count
      let place := sum % count
      if point.isValidChar then
        insertions (text.take place ++ Char.ofNat point :: text.drop place) point (place + 1)
          (adapt (sum - position) count (position == 0)) rest
      else none
termination_by cs.length
decreasing_by exact numeral_shorter _h

/-- The ASCII characters before the last hyphen, and what follows it. Without ASCII characters
there is no hyphen. -/
def parts (cs : List Char) : List Char × List Char :=
  let tail := (cs.reverse.takeWhile (· ≠ '-')).reverse
  match cs.length - tail.length - 1 with
  | 0 => ([], cs)
  | count => (cs.take count, tail)

/-- The text that Punycode writes as `cs`. -/
def decode? (cs : List Char) : Option (List Char) :=
  let (text, cs) := parts cs
  insertions text 128 0 72 cs

end Promotions.Url.Punycode
