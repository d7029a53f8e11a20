import HookRelay.Time.Instant
import HookRelay.Text.Blank

namespace HookRelay.Freshness

def defaultTolerance : Duration := Duration.ofSeconds 300

/-- A timestamp counts seconds since 1970; one exactly at the tolerance is fresh. -/
def isFresh (timestamp : Int) (toleranceSeconds : Nat) (now : Instant) : Bool :=
  (now.seconds - timestamp).natAbs ≤ toleranceSeconds

/-- The timestamp that a header writes, in sixty-four bits. -/
def timestamp? (header : List Char) : Option Int :=
  match Text.integer? (Text.trim header) with
  | some value =>
    if -0x8000000000000000 ≤ value && value < 0x8000000000000000 then some value else none
  | none => none

def isFreshHeader (header : List Char) (tolerance : Duration) (now : Instant) : Bool :=
  match timestamp? header with
  | some timestamp => isFresh timestamp tolerance.seconds now
  | none => false

end HookRelay.Freshness
