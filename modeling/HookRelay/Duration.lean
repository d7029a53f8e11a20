import HookRelay.Binary64.Decimal

/-!
Lengths of time to the nanosecond, of at most `2 ^ 64` seconds, and their passage to and from
binary64 seconds.
-/
namespace HookRelay

structure Duration where
  nanos : Nat
deriving DecidableEq, Repr

namespace Duration

def nanosPerSecond : Nat := 1000000000

/-- Whole seconds are counted in sixty-four bits. -/
def limit : Nat := 0x10000000000000000 * nanosPerSecond

def ofSeconds (seconds : Nat) : Duration := ⟨seconds * nanosPerSecond⟩

def ofMillis (millis : Nat) : Duration := ⟨millis * 1000000⟩

def ofParts (seconds nanos : Nat) : Duration := ⟨seconds * nanosPerSecond + nanos⟩

def zero : Duration := ⟨0⟩

def seconds (duration : Duration) : Nat := duration.nanos / nanosPerSecond

def subsecond (duration : Duration) : Nat := duration.nanos % nanosPerSecond

def micros (duration : Duration) : Nat := duration.nanos / 1000

def min (left right : Duration) : Duration := if left.nanos ≤ right.nanos then left else right

/-- Seconds in binary64: the whole seconds rounded, plus the rounded quotient of the rest. -/
def toSeconds64 (duration : Duration) : Binary64 :=
  (Binary64.ofNat duration.seconds).add
    ((Binary64.ofNat duration.subsecond).div (Binary64.ofNat nanosPerSecond))

/-- The nearest duration to a number of seconds, a half nanosecond to the even one; none for a
negative number, a NaN or `2 ^ 64` seconds and more. -/
def ofSeconds64? : Binary64 → Option Duration
  | .finite negative mantissa exponent =>
    let (numerator, denominator) := Binary64.ratio mantissa exponent
    if negative && mantissa ≠ 0 then none
    else if 0x10000000000000000 * denominator ≤ numerator then none
    else some ⟨Binary64.divideToEven (numerator * nanosPerSecond) denominator⟩
  | _ => none

private def dropTrailingZeros (digits : List Char) : List Char :=
  (digits.reverse.dropWhile (· == '0')).reverse

private def decimal (whole part width : Nat) : List Char :=
  let fraction := dropTrailingZeros (Text.padNat width part)
  Nat.toDigits 10 whole ++ if fraction.isEmpty then [] else '.' :: fraction

/-- The duration in the greatest of `s`, `ms`, `µs` and `ns` of which it holds one, with no zeros at
the end of the fraction. -/
def text (duration : Duration) : String :=
  let nanos := duration.subsecond
  String.ofList <|
    if duration.seconds > 0 then decimal duration.seconds nanos 9 ++ ['s']
    else if nanos ≥ 1000000 then decimal (nanos / 1000000) (nanos % 1000000) 6 ++ ['m', 's']
    else if nanos ≥ 1000 then decimal (nanos / 1000) (nanos % 1000) 3 ++ ['µ', 's']
    else Nat.toDigits 10 nanos ++ ['n', 's']

end Duration

end HookRelay
