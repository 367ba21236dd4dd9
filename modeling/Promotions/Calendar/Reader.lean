import Promotions.Calendar.Instant
import Promotions.Text.Blank
import Promotions.Text.Numeral

/-!
Reading an instant. A reader of a part gives the part with what is left of the text, or nothing
on a fault. The reader is more lenient than the printer: blanks may stand around the parts
of date and time, parts may have a single digit, the separator may be `T`, `t` or a space, and the
clock may be any offset of whole minutes below a day.
-/

namespace Promotions.Calendar

open Text

/-- At most `limit` leading digits and what follows them. -/
def leadingDigits : (limit : Nat) → List Char → List Char × List Char
  | limit + 1, c :: cs =>
    if c.isDigit then
      let (ds, rest) := leadingDigits limit cs
      (c :: ds, rest)
    else ([], c :: cs)
  | _, cs => ([], cs)

/-- A number of one to `limit` digits, after blanks. -/
def readNumber (limit : Nat) (cs : List Char) : Option (Nat × List Char) :=
  match leadingDigits limit (trimLeft cs) with
  | ([], _) => none
  | (ds, rest) => some (decimalValue ds, rest)

def readLongNumber (cs : List Char) : Option (Nat × List Char) :=
  match leadingDigits cs.length cs with
  | ([], _) => none
  | (ds, rest) => some (decimalValue ds, rest)

/-- A year: up to four digits, or a sign and any number of them. -/
def readYear (cs : List Char) : Option (Int × List Char) :=
  match trimLeft cs with
  | '-' :: rest => (readLongNumber rest).map fun (n, rest) => (-(n : Int), rest)
  | '+' :: rest => (readLongNumber rest).map fun (n, rest) => ((n : Int), rest)
  | rest => (readNumber 4 rest).map fun (n, rest) => ((n : Int), rest)

def readMark (mark : Char) (cs : List Char) : Option (List Char) :=
  match trimLeft cs with
  | c :: rest => if c = mark then some rest else none
  | [] => none

/-- The fraction of a second in nanoseconds; digits beyond the ninth are dropped. -/
def readFraction (cs : List Char) : Option (Nat × List Char) :=
  match cs with
  | '.' :: rest =>
    match leadingDigits 9 rest with
    | ([], _) => none
    | (ds, rest) =>
      some (decimalValue ds * Nat.pow 10 (9 - ds.length), rest.dropWhile Char.isDigit)
  | _ => some (0, cs)

def readTwoDigits : List Char → Option (Nat × List Char)
  | a :: b :: rest => do some ((← digitValue? a) * 10 + (← digitValue? b), rest)
  | _ => none

def readOffset (cs : List Char) : Option (Int × List Char) :=
  let signed (sign : Int) (cs : List Char) : Option (Int × List Char) := do
    let (hours, rest) ← readTwoDigits cs
    let (minutes, rest) ← readTwoDigits (rest.dropWhile fun c => c = ':' || isBlank c)
    if minutes < 60 ∧ hours < 24 then some (sign * (hours * 60 + minutes), rest) else none
  match cs with
  | 'Z' :: rest => some (0, rest)
  | 'z' :: rest => some (0, rest)
  | '+' :: rest => signed 1 rest
  | '-' :: rest => signed (-1) rest
  | '\u2212' :: rest => signed (-1) rest
  | a :: b :: c :: rest =>
    if [a.toUpper, b.toUpper, c.toUpper] = ['U', 'T', 'C'] then some (0, rest) else none
  | _ => none

def readDate (cs : List Char) : Option (Date × List Char) := do
  let (year, cs) ← readYear cs
  let cs ← readMark '-' cs
  let (month, cs) ← readNumber 2 cs
  let cs ← readMark '-' cs
  let (day, cs) ← readNumber 2 cs
  some (← Date.of? year month day, cs)

def readTime (cs : List Char) : Option (Time × List Char) := do
  let (hour, cs) ← readNumber 2 cs
  let cs ← readMark ':' cs
  let (minute, cs) ← readNumber 2 cs
  let cs ← readMark ':' cs
  let (second, cs) ← readNumber 2 cs
  let (nano, cs) ← readFraction cs
  some (← Time.of? hour minute second nano, cs)

def readSeparator : List Char → Option (List Char)
  | c :: rest => if c = 'T' ∨ c = 't' ∨ c = ' ' then some rest else none
  | [] => none

/-- An instant: date, separator, time of day and clock offset, with nothing but blanks after. -/
def Instant.read? (cs : List Char) : Option Instant := do
  let (date, cs) ← readDate cs
  let cs ← readSeparator cs
  let (time, cs) ← readTime cs
  let (minutes, cs) ← readOffset (trimLeft cs)
  if cs.all isBlank then Instant.ofClock? date time minutes else none

def Instant.ofString? (s : String) : Option Instant := Instant.read? s.toList

end Promotions.Calendar
