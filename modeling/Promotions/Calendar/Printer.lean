import Promotions.Calendar.Instant
import Promotions.Text.Numeral

/-!
The written form of an instant: `2025-01-01T00:00:00Z`. A fraction is left out when it is zero and
has otherwise 3, 6 or 9 digits, the fewest that are exact. Years outside 0 to 9999 carry a sign.
-/

namespace Promotions.Calendar

open Text

/-- A year has at least four digits; outside 0 to 9999 a sign stands in front of them. -/
def printYear (year : Int) : List Char :=
  if 0 ≤ year ∧ year ≤ 9999 then fixedDecimal 4 year.toNat
  else
    let digits := decimal year.natAbs
    (if year < 0 then '-' else '+') :: (List.replicate (4 - digits.length) '0' ++ digits)

/-- A fraction of a second, with the point before it. -/
def printFraction (nano : Nat) : List Char :=
  if nano = 0 then []
  else if nano % 1000000 = 0 then '.' :: fixedDecimal 3 (nano / 1000000)
  else if nano % 1000 = 0 then '.' :: fixedDecimal 6 (nano / 1000)
  else '.' :: fixedDecimal 9 nano

def Date.print (d : Date) : List Char :=
  printYear d.year ++ '-' :: fixedDecimal 2 d.month ++ '-' :: fixedDecimal 2 d.day

def Time.print (t : Time) : List Char :=
  fixedDecimal 2 t.hour ++ ':' :: fixedDecimal 2 t.minute ++ ':' :: fixedDecimal 2 t.shownSecond
    ++ printFraction t.shownNano

/-- The date, a `T`, the time of day and a `Z`. -/
def Instant.print (i : Instant) : List Char := i.date.print ++ 'T' :: i.time.print ++ ['Z']

instance : ToString Instant := ⟨fun i => String.ofList i.print⟩

end Promotions.Calendar
