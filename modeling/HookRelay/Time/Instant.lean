import HookRelay.Duration

/-!
Points in time, counted in nanoseconds from the start of 1970, and a clock that moves only when told
to. The calendar runs from the start of the year -262143 to the end of the year 262142.
-/
namespace HookRelay

structure Instant where
  nanos : Int
deriving DecidableEq, Repr

namespace Instant

instance : LE Instant := ⟨fun left right => left.nanos ≤ right.nanos⟩

instance : LT Instant := ⟨fun left right => left.nanos < right.nanos⟩

instance (left right : Instant) : Decidable (left ≤ right) :=
  inferInstanceAs (Decidable (left.nanos ≤ right.nanos))

instance (left right : Instant) : Decidable (left < right) :=
  inferInstanceAs (Decidable (left.nanos < right.nanos))

def earliest : Instant := ⟨-8334601228800 * 1000000000⟩

def latest : Instant := ⟨8210266876800 * 1000000000 - 1⟩

def inCalendar (instant : Instant) : Bool := earliest ≤ instant && instant ≤ latest

def ofMicros (micros : Int) : Instant := ⟨micros * 1000⟩

def ofSeconds (seconds : Int) : Instant := ⟨seconds * 1000000000⟩

def seconds (instant : Instant) : Int := instant.nanos.fdiv 1000000000

def micros (instant : Instant) : Int := instant.nanos.fdiv 1000

/-- The instant a duration later; none past the end of the calendar, or for a duration whose
milliseconds do not fit in sixty-three bits. -/
def later? (instant : Instant) (duration : Duration) : Option Instant :=
  let result : Instant := ⟨instant.nanos + duration.nanos⟩
  if duration.nanos ≤ 0x7FFFFFFFFFFFFFFF * 1000000 && result ≤ latest then some result else none

theorem eq_of_nanos {left right : Instant} (same : left.nanos = right.nanos) : left = right := by
  cases left
  cases right
  exact congrArg mk same

theorem later?_eq_some {instant later : Instant} {duration : Duration}
    (found : instant.later? duration = some later) :
    later.nanos = instant.nanos + duration.nanos := by
  simp only [later?] at found
  split at found
  · exact (congrArg nanos (Option.some.inj found)).symm
  · cases found

/-- The instant a number of days later, if the calendar reaches it. -/
def daysLater? (instant : Instant) (days : Nat) : Option Instant :=
  let result : Instant := ⟨instant.nanos + days * 86400000000000⟩
  if result ≤ latest then some result else none

theorem daysLater?_eq_none_iff {instant : Instant} {days : Nat} :
    instant.daysLater? days = none ↔ latest.nanos < instant.nanos + days * 86400000000000 := by
  simp only [daysLater?]
  split
  · rename_i within
    exact ⟨nofun, fun beyond => absurd within (Int.not_le.mpr beyond)⟩
  · rename_i beyond
    exact ⟨fun _ => Int.not_le.mp beyond, fun _ => rfl⟩

theorem daysLater?_eq_some {instant later : Instant} {days : Nat}
    (reached : instant.daysLater? days = some later) :
    later ≤ latest ∧ later.nanos = instant.nanos + days * 86400000000000 := by
  simp only [daysLater?] at reached
  split at reached
  · rename_i within
    cases reached
    exact ⟨within, rfl⟩
  · cases reached

end Instant

/-- A clock that stands still between moves and counts microseconds in sixty-four bits. -/
structure ManualClock where
  micros : Int
deriving DecidableEq, Repr

namespace ManualClock

def greatest : Int := 0x7FFFFFFFFFFFFFFF

def startingAt (instant : Instant) : ManualClock := ⟨instant.micros⟩

/-- The current time, or the end of the calendar when the count has left it. -/
def now (clock : ManualClock) : Instant :=
  let instant := Instant.ofMicros clock.micros
  if instant.inCalendar then instant else Instant.latest

/-- Moves forward by whole microseconds, stopping at the greatest count. -/
def advance (clock : ManualClock) (duration : Duration) : ManualClock :=
  let step : Int := min (duration.micros : Int) greatest
  ⟨min (clock.micros + step) greatest⟩

def jump (_ : ManualClock) (instant : Instant) : ManualClock := ⟨instant.micros⟩

end ManualClock

end HookRelay
