import HookRelay.Duration

namespace HookRelay

structure RetryPolicy where
  initialDelay : Duration
  multiplier : Binary64
  maxDelay : Duration
  jitter : Binary64
deriving DecidableEq, Repr

namespace RetryPolicy

def standard : RetryPolicy where
  initialDelay := Duration.ofSeconds 60
  multiplier := Binary64.ofNat 2
  maxDelay := Duration.ofSeconds 3600
  jitter := Binary64.zero false

/-- Exponents stop at the greatest signed thirty-two-bit integer. -/
def greatestExponent : Nat := 0x7FFFFFFF

/-- `initial * multiplier ^ (attempt - 1)`, the delay after attempt number `attempt` failed, before
jitter; the ceiling when that is not finite or not below it. -/
def delayBefore (attempt : Nat) (initial : Duration) (multiplier : Binary64) (ceiling : Duration) :
    Duration :=
  let exponent := min (attempt - 1) greatestExponent
  let seconds := initial.toSeconds64.mul (multiplier.power exponent)
  if !seconds.isFinite || Binary64.le ceiling.toSeconds64 seconds then ceiling
  -- seconds below the ceiling always make a duration, see `some_delayBefore`
  else (Duration.ofSeconds64? (Binary64.max seconds (Binary64.zero false))).getD ceiling

def one : Binary64 := Binary64.ofNat 1

/-- The share of a delay that jitter may add or take, between nothing and all of it. -/
def jitterShare (factor : Binary64) : Binary64 :=
  if Binary64.lt factor (Binary64.zero false) then Binary64.zero false
  else if Binary64.lt one factor then one
  else factor

/-- A delay spread by jitter; `draw`, from minus one to one, says where between the least and the
greatest value it falls. None where there is nothing to draw from or no duration can hold the
result, which stops the program. -/
def spread? (delay : Duration) (factor draw : Binary64) : Option Duration :=
  if Binary64.le factor (Binary64.zero false) || delay.nanos = 0 then some delay
  else
    let range := delay.toSeconds64.mul (jitterShare factor)
    if range.isFinite then
      let seconds := delay.toSeconds64.add (range.mul draw)
      Duration.ofSeconds64? (Binary64.max seconds (Binary64.zero false))
    else none

/-- The delay after attempt number `attempt` failed, jitter included. -/
def nextDelay? (policy : RetryPolicy) (attempt : Nat) (draw : Binary64) : Option Duration :=
  let base := delayBefore attempt policy.initialDelay policy.multiplier policy.maxDelay
  (spread? base policy.jitter draw).map fun delay => delay.min policy.maxDelay

/-- What rounding may add to a spread delay: a microsecond. -/
def rounding : Binary64 := .ofDecimal false 1 (-6)

/-- Whether a delay is one that jitter may give: at most the ceiling, and in floating point at most
the jitter's share of the base away from it, rounding aside. -/
def mayGive (policy : RetryPolicy) (base delay : Duration) : Bool :=
  let distance := (delay.toSeconds64.sub base.toSeconds64).abs
  let share := policy.jitter.mul base.toSeconds64
  delay.nanos ≤ policy.maxDelay.nanos && distance.le (share.add rounding)

def isExhausted (attempts maxAttempts : Nat) : Bool := maxAttempts ≤ attempts

inductive Decision where
  | retry (delay : Duration)
  | exhausted
deriving DecidableEq, Repr

def decide? (policy : RetryPolicy) (attempts maxAttempts : Nat) (draw : Binary64) :
    Option Decision :=
  if isExhausted attempts maxAttempts then some .exhausted
  else (policy.nextDelay? attempts draw).map .retry

theorem decide?_eq_exhausted {policy : RetryPolicy} {attempts maxAttempts : Nat} {draw : Binary64}
    (decided : policy.decide? attempts maxAttempts draw = some .exhausted) :
    maxAttempts ≤ attempts := by
  unfold decide? at decided
  split at decided
  · rename_i spent
    exact of_decide_eq_true spent
  · cases found : policy.nextDelay? attempts draw <;> simp [found] at decided

theorem decide?_eq_retry {policy : RetryPolicy} {attempts maxAttempts : Nat} {draw : Binary64}
    {delay : Duration} (decided : policy.decide? attempts maxAttempts draw = some (.retry delay)) :
    attempts < maxAttempts ∧ policy.nextDelay? attempts draw = some delay := by
  unfold decide? at decided
  split at decided
  · simp at decided
  · rename_i left
    refine ⟨by simpa [isExhausted] using left, ?_⟩
    cases found : policy.nextDelay? attempts draw with
    | none => simp [found] at decided
    | some delay => simpa [found] using decided

end RetryPolicy

end HookRelay
