import HookRelay.Binary64.Basic
import HookRelay.Text.Blank

namespace HookRelay.Binary64

/-- The number nearest to `± digits * 10 ^ exponent`. -/
def ofDecimal (negative : Bool) (digits : Nat) (exponent : Int) : Binary64 :=
  let length : Int := (Nat.toDigits 10 digits).length
  if digits = 0 || exponent + length < -400 then zero negative
  else if 400 < exponent + length then infinite negative
  else if exponent < 0 then ofRatio negative digits (Nat.pow 10 (-exponent).toNat)
  else ofRatio negative (digits * Nat.pow 10 exponent.toNat) 1

/-- The exponent of the first decimal digit of `numerator / denominator`, both positive. -/
def leadingExponent (numerator denominator : Nat) : Int :=
  if denominator ≤ numerator then (Nat.toDigits 10 (numerator / denominator)).length - 1
  else
    let above := (denominator + numerator - 1) / numerator
    if above ≤ 1 then 0 else 0 - ((Nat.toDigits 10 (above - 1)).length : Int)

/-- The reals that round to a number, over a common denominator: the number itself, the two ends,
and whether the ends belong. -/
structure Interval where
  value : Nat
  low : Nat
  high : Nat
  denominator : Nat
  closed : Bool

/-- Half a unit on either side, but a quarter below a power of two, where the units get smaller. -/
def interval (mantissa : Nat) (exponent : Int) : Interval :=
  let (value, denominator) := ratio (4 * mantissa) (exponent - 2)
  let unit := value / (4 * mantissa)
  let below := if mantissa = fullMantissa && leastExponent < exponent then unit else 2 * unit
  ⟨value, value - below, value + 2 * unit, denominator, mantissa % 2 == 0⟩

def Interval.holds (interval : Interval) (digits : Nat) (exponent : Int) : Bool :=
  let (point, scale) :=
    if exponent < 0 then (digits * interval.denominator, Nat.pow 10 (-exponent).toNat)
    else (digits * interval.denominator * Nat.pow 10 exponent.toNat, 1)
  if interval.closed then interval.low * scale ≤ point && point ≤ interval.high * scale
  else interval.low * scale < point && point < interval.high * scale

/-- Of the two neighbours of the value among the multiples of `10 ^ exponent`, the one in the
interval; of two the nearer, and the even one of two equally near. -/
def Interval.neighbour? (interval : Interval) (exponent : Int) : Option Nat :=
  let (numerator, denominator) :=
    if exponent < 0 then (interval.value * Nat.pow 10 (-exponent).toNat, interval.denominator)
    else (interval.value, interval.denominator * Nat.pow 10 exponent.toNat)
  let below := numerator / denominator
  match interval.holds below exponent, interval.holds (below + 1) exponent with
  | true, true => some (divideToEven numerator denominator)
  | true, false => some below
  | false, true => some (below + 1)
  | false, false => none

private def shortestFrom (interval : Interval) (exponent : Int) : Nat → Nat × Int
  | 0 => ((interval.neighbour? exponent).getD 0, exponent)
  | more + 1 =>
    match interval.neighbour? exponent with
    | some digits => (digits, exponent)
    | none => shortestFrom interval (exponent - 1) more

private def dropZeros (digits : Nat) (exponent : Int) : Nat → Nat × Int
  | 0 => (digits, exponent)
  | more + 1 =>
    if digits ≠ 0 && digits % 10 = 0 then dropZeros (digits / 10) (exponent + 1) more
    else (digits, exponent)

/-- The fewest digits, and the power of ten of the last of them, that read back as a positive finite
number. -/
def shortest (mantissa : Nat) (exponent : Int) : Nat × Int :=
  let interval := interval mantissa exponent
  let first := leadingExponent interval.value interval.denominator
  let (digits, exponent) := shortestFrom interval first 16
  dropZeros digits exponent 17

/-- How a number is laid out: the exponents written without one, the mark of a positive exponent,
and the texts of what has no digits. -/
structure Layout where
  plainFrom : Int
  plainTo : Int
  plus : Bool
  infinityText : String
  nanText : String

/-- At least one digit after the point in plain form, none needed before an exponent. -/
def Layout.write (layout : Layout) : Binary64 → List Char
  | nan => layout.nanText.toList
  | infinite negative => (if negative then ['-'] else []) ++ layout.infinityText.toList
  | finite negative mantissa exponent =>
    let sign := if negative then ['-'] else []
    if mantissa = 0 then sign ++ ['0', '.', '0']
    else
      let (digits, last) := shortest mantissa exponent
      let text := Nat.toDigits 10 digits
      let first : Int := last + text.length - 1
      if layout.plainFrom ≤ first && first ≤ layout.plainTo then
        if first < 0 then
          sign ++ ['0', '.'] ++ List.replicate (-first - 1).toNat '0' ++ text
        else if last < 0 then
          let whole := (first + 1).toNat
          sign ++ text.take whole ++ ['.'] ++ text.drop whole
        else sign ++ text ++ List.replicate last.toNat '0' ++ ['.', '0']
      else
        let fraction := if text.length ≤ 1 then [] else '.' :: text.drop 1
        let mark := if first < 0 then ['-'] else if layout.plus then ['+'] else []
        sign ++ text.take 1 ++ fraction ++ ['e'] ++ mark ++ Nat.toDigits 10 first.natAbs

/-- Diagnostic text is plain from `0.0001` up to below `1e16`. -/
def diagnostic : Layout := ⟨-4, 15, false, "inf", "NaN"⟩

private def exponent? : List Char → Option Int
  | [] => some 0
  | mark :: rest => if mark = 'e' || mark = 'E' then Text.integer? rest else none

/-- The nearest number to decimal text: a sign, digits with a point among or beside them, an
exponent; or the names of infinity and of the NaN in any case. -/
def read? (text : List Char) : Option Binary64 :=
  let (negative, body) : Bool × List Char :=
    match text with
    | '-' :: rest => (true, rest)
    | '+' :: rest => (false, rest)
    | rest => (false, rest)
  let named := Text.lowerAscii body
  if named = "inf".toList || named = "infinity".toList then some (infinite negative)
  else if named = "nan".toList then some nan
  else
    let whole := body.takeWhile Text.isDigit
    let afterWhole := body.dropWhile Text.isDigit
    let (fraction, afterFraction) : List Char × List Char :=
      match afterWhole with
      | '.' :: rest => (rest.takeWhile Text.isDigit, rest.dropWhile Text.isDigit)
      | rest => ([], rest)
    if whole.isEmpty && fraction.isEmpty then none
    else (exponent? afterFraction).map fun exponent =>
      ofDecimal negative (Text.decimalValue (whole ++ fraction)) (exponent - fraction.length)

end HookRelay.Binary64
