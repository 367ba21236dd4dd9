import Promotions.Calendar.Date

/-!
Instants of universal time to the nanosecond. A leap second is the sixty-first second of a minute:
it is kept in the nanoseconds of second 59, which then run from one to two thousand million.
-/

namespace Promotions.Calendar

def nanosPerSecond : Nat := 1000000000

structure Time where
  hour : Nat
  minute : Nat
  second : Nat
  nano : Nat
  hour_lt : hour < 24
  minute_lt : minute < 60
  second_lt : second < 60
  nano_lt : nano < nanosPerSecond ∨ (second = 59 ∧ nano < 2 * nanosPerSecond)
  deriving DecidableEq

namespace Time

/-- The time of day with the given numbers, if there is one. Second 60 is the leap second. -/
def of? (hour minute second nano : Nat) : Option Time :=
  let (second, nano) := if second = 60 then (59, nano + nanosPerSecond) else (second, nano)
  if h : hour < 24 ∧ minute < 60 ∧ second < 60
      ∧ (nano < nanosPerSecond ∨ (second = 59 ∧ nano < 2 * nanosPerSecond))
  then some ⟨hour, minute, second, nano, h.1, h.2.1, h.2.2.1, h.2.2.2⟩
  else none

/-- The second as a clock shows it: 60 during a leap second. -/
def shownSecond (t : Time) : Nat := if t.nano < nanosPerSecond then t.second else 60

def shownNano (t : Time) : Nat := t.nano % nanosPerSecond

end Time

structure Instant where
  date : Date
  time : Time
  deriving DecidableEq

namespace Instant

/-- A number that grows with time. Each part of the instant is one digit of it, in a radix that no
value of the part reaches, so that different instants have different ranks. -/
def rank (i : Instant) : Int :=
  (((((i.date.year * 13 + i.date.month) * 32 + i.date.day) * 24 + i.time.hour) * 60
    + i.time.minute) * 60 + i.time.second) * 2000000000 + i.time.nano

instance : LE Instant := ⟨fun a b => a.rank ≤ b.rank⟩

instance : LT Instant := ⟨fun a b => a.rank < b.rank⟩

instance (a b : Instant) : Decidable (a ≤ b) := inferInstanceAs (Decidable (a.rank ≤ b.rank))

instance (a b : Instant) : Decidable (a < b) := inferInstanceAs (Decidable (a.rank < b.rank))

/-- The same instant read off a clock that is `minutes` ahead of universal time. The clock differs
by less than a day, and by whole minutes, so that seconds stay as they are. -/
def ofClock? (date : Date) (time : Time) (minutes : Int) : Option Instant := do
  let total : Int := time.hour * 60 + time.minute - minutes
  let date ← date.shift? (total.fdiv 1440)
  let ofDay := (total.fmod 1440).toNat
  if h : ofDay / 60 < 24 then
    some ⟨date, { time with hour := ofDay / 60, minute := ofDay % 60, hour_lt := h,
                            minute_lt := Nat.mod_lt _ (by decide) }⟩
  else none

/-- The instant a whole number of seconds after midnight of a date. -/
def ofSeconds? (date : Date) (seconds : Nat) : Option Instant := do
  let date ← date.shift? (seconds / 86400 : Nat)
  let time ← Time.of? (seconds / 3600 % 24) (seconds / 60 % 60) (seconds % 60) 0
  some ⟨date, time⟩

/-- The instant that follows `i` by less than a second once a second of the given length in
nanoseconds has run full: the start of the next second. -/
def nextSecond? (i : Instant) : Option Instant :=
  let seconds := (i.time.hour * 60 + i.time.minute) * 60 + i.time.second + 1
  ofSeconds? i.date seconds

def sinceMillennium (i : Instant) : Bool := 2000 ≤ i.date.year

/-- The instant within the second that a clock without leap seconds shows: a leap second is the
second after it. -/
def withoutLeap? (i : Instant) : Option Instant :=
  if i.time.nano < nanosPerSecond then some i
  else
    i.nextSecond?.bind fun s =>
      (Time.of? s.time.hour s.time.minute s.time.second (i.time.nano % nanosPerSecond)).map
        fun t => { s with time := t }

/-- The instant as a counter of microseconds from the start of the year 2000 keeps it: with a leap
second counted as the second after it, and then cut toward that moment. -/
def toMicros? (i : Instant) : Option Instant := do
  let i ← i.withoutLeap?
  let cut := i.time.nano % 1000
  let nano := i.time.nano - cut + if cut ≠ 0 && !i.sinceMillennium then 1000 else 0
  if nano < nanosPerSecond then
    (Time.of? i.time.hour i.time.minute i.time.second nano).map fun t => { i with time := t }
  else i.nextSecond?

end Instant

end Promotions.Calendar
