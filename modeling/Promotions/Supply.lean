import Promotions.Calendar.Instant
import Promotions.Uuid

/-!
Where the identifiers of new promotions and the times of their creation come from when they are to
be known beforehand.
-/

namespace Promotions

open Calendar

/-- Where identifiers and times come from. The next ones may be set beforehand. -/
structure Supply where
  count : Nat := 0
  nextId : Option Uuid := none
  nextTime : Option Instant := none

namespace Supply

/-- The identifier of the `n`-th promotion, unless another was set. -/
def idAt (n : Nat) : Uuid := .ofNat (0x00000000000040008000000000000000 + n)

def firstDay : Date := ⟨2025, 1, 1, by decide, by decide, by decide, by decide⟩

/-- The time at which the `n`-th promotion is created, unless another was set: so many seconds after
the first day began. -/
def timeAt (n : Nat) : Instant :=
  (Instant.ofSeconds? firstDay n).getD ⟨firstDay, ⟨0, 0, 0, 0, by decide, by decide, by decide,
    Or.inl (by decide)⟩⟩

def take (s : Supply) : (Uuid × Instant) × Supply :=
  let n := s.count + 1
  ((s.nextId.getD (idAt n), s.nextTime.getD (timeAt n)), { count := n })

end Supply

end Promotions
