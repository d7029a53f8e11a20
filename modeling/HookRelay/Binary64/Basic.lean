/-!
Numbers in the binary64 format, held as exact values: a finite one is a mantissa below `2 ^ 53`
times a power of two. Every operation computes the exact result in the integers and rounds it
once, to the nearest representable value and to the even mantissa of two equally near.
-/
namespace HookRelay

/-- A finite number is `± mantissa * 2 ^ exponent`. -/
inductive Binary64 where
  | finite (negative : Bool) (mantissa : Nat) (exponent : Int)
  | infinite (negative : Bool)
  | nan
deriving DecidableEq, Repr

namespace Binary64

def leastExponent : Int := -1074

def greatestExponent : Int := 971

/-- The first number that takes more than fifty-three bits. -/
def mantissaLimit : Nat := 0x20000000000000

/-- The least number that takes all fifty-three bits. -/
def fullMantissa : Nat := 0x10000000000000

/-- Fits the format: the mantissa has fifty-three bits, the first of them set unless the exponent is
the least one. -/
def Canonical : Binary64 → Prop
  | finite _ mantissa exponent =>
    mantissa < mantissaLimit ∧ leastExponent ≤ exponent ∧ exponent ≤ greatestExponent ∧
      (fullMantissa ≤ mantissa ∨ exponent = leastExponent)
  | infinite _ => True
  | nan => True

def zero (negative : Bool) : Binary64 := finite negative 0 leastExponent

/-- The quotient rounded to the nearest natural number, a half to the even one. -/
def divideToEven (numerator denominator : Nat) : Nat :=
  let quotient := numerator / denominator
  let remainder := numerator % denominator
  if 2 * remainder < denominator then quotient
  else if denominator < 2 * remainder then quotient + 1
  else if quotient % 2 = 0 then quotient else quotient + 1

/-- `numerator / denominator` in units of `2 ^ exponent`, as a quotient of naturals. -/
def inUnits (numerator denominator : Nat) (exponent : Int) : Nat × Nat :=
  if exponent < 0 then (numerator * Nat.pow 2 (-exponent).toNat, denominator)
  else (numerator, denominator * Nat.pow 2 exponent.toNat)

/-- The exponent whose unit leaves exactly fifty-three bits before the point, or the least one. -/
def unitExponent (numerator denominator : Nat) : Int :=
  let guess : Int := (Nat.log2 numerator : Int) - Nat.log2 denominator - 52
  let (scaled, unit) := inUnits numerator denominator guess
  let fitted := if scaled < fullMantissa * unit then guess - 1 else guess
  max fitted leastExponent

/-- The representable value nearest to `± numerator / denominator`. -/
def ofRatio (negative : Bool) (numerator denominator : Nat) : Binary64 :=
  if numerator = 0 then zero negative
  else
    let exponent := unitExponent numerator denominator
    let (scaled, unit) := inUnits numerator denominator exponent
    let mantissa := divideToEven scaled unit
    let (mantissa, exponent) :=
      if mantissa = mantissaLimit then (fullMantissa, exponent + 1) else (mantissa, exponent)
    if greatestExponent < exponent then infinite negative else finite negative mantissa exponent

def ofNat (value : Nat) : Binary64 := ofRatio false value 1

def ofInt (value : Int) : Binary64 := ofRatio (value < 0) value.natAbs 1

def ratio (mantissa : Nat) (exponent : Int) : Nat × Nat := inUnits mantissa 1 (-exponent)

def isFinite : Binary64 → Bool
  | finite .. => true
  | _ => false

def isNaN : Binary64 → Bool
  | nan => true
  | _ => false

def isZero : Binary64 → Bool
  | finite _ mantissa _ => mantissa == 0
  | _ => false

def neg : Binary64 → Binary64
  | finite negative mantissa exponent => finite (!negative) mantissa exponent
  | infinite negative => infinite (!negative)
  | nan => nan

def mul : Binary64 → Binary64 → Binary64
  | finite leftMinus leftMantissa leftExponent, finite rightMinus rightMantissa rightExponent =>
    let (numerator, denominator) :=
      ratio (leftMantissa * rightMantissa) (leftExponent + rightExponent)
    ofRatio (leftMinus != rightMinus) numerator denominator
  | infinite leftMinus, finite rightMinus mantissa _ =>
    if mantissa = 0 then nan else infinite (leftMinus != rightMinus)
  | finite leftMinus mantissa _, infinite rightMinus =>
    if mantissa = 0 then nan else infinite (leftMinus != rightMinus)
  | infinite leftMinus, infinite rightMinus => infinite (leftMinus != rightMinus)
  | _, _ => nan

def div : Binary64 → Binary64 → Binary64
  | finite leftMinus leftMantissa leftExponent, finite rightMinus rightMantissa rightExponent =>
    if rightMantissa = 0 then
      if leftMantissa = 0 then nan else infinite (leftMinus != rightMinus)
    else
      let (numerator, denominator) := ratio leftMantissa (leftExponent - rightExponent)
      ofRatio (leftMinus != rightMinus) numerator (denominator * rightMantissa)
  | infinite leftMinus, finite rightMinus _ _ => infinite (leftMinus != rightMinus)
  | finite leftMinus _ _, infinite rightMinus => zero (leftMinus != rightMinus)
  | _, _ => nan

def units (negative : Bool) (mantissa : Nat) (exponent : Int) : Int :=
  let magnitude : Int := mantissa * Nat.pow 2 (exponent - leastExponent).toNat
  if negative then -magnitude else magnitude

/-- A sum that is exactly zero is negative only if both terms are. -/
def add : Binary64 → Binary64 → Binary64
  | finite leftMinus leftMantissa leftExponent, finite rightMinus rightMantissa rightExponent =>
    let sum := units leftMinus leftMantissa leftExponent +
      units rightMinus rightMantissa rightExponent
    let negative := if sum = 0 then leftMinus && rightMinus else decide (sum < 0)
    ofRatio negative sum.natAbs (Nat.pow 2 (-leastExponent).toNat)
  | infinite leftMinus, infinite rightMinus =>
    if leftMinus = rightMinus then infinite leftMinus else nan
  | infinite negative, finite .. => infinite negative
  | finite .., infinite negative => infinite negative
  | _, _ => nan

def sub (left right : Binary64) : Binary64 := left.add right.neg

def abs : Binary64 → Binary64
  | finite _ mantissa exponent => finite false mantissa exponent
  | infinite _ => infinite false
  | nan => nan

/-- Numeric order; nothing is below or above a NaN, and the two zeros are equal. -/
def lt : Binary64 → Binary64 → Bool
  | finite leftMinus leftMantissa leftExponent, finite rightMinus rightMantissa rightExponent =>
    decide (units leftMinus leftMantissa leftExponent <
      units rightMinus rightMantissa rightExponent)
  | infinite leftMinus, infinite rightMinus => leftMinus && !rightMinus
  | infinite negative, finite .. => negative
  | finite .., infinite negative => !negative
  | _, _ => false

/-- Numeric equality, by which a NaN differs from itself. -/
def eq : Binary64 → Binary64 → Bool
  | finite leftMinus leftMantissa leftExponent, finite rightMinus rightMantissa rightExponent =>
    decide (units leftMinus leftMantissa leftExponent =
      units rightMinus rightMantissa rightExponent)
  | infinite leftMinus, infinite rightMinus => leftMinus == rightMinus
  | _, _ => false

def le (left right : Binary64) : Bool := lt left right || eq left right

/-- The greater of two numbers, or the other one if one is a NaN. -/
def max (left right : Binary64) : Binary64 :=
  if left.isNaN then right else if right.isNaN then left else if lt left right then right else left

private def powerOnto (result base : Binary64) (exponent : Nat) : Binary64 :=
  let result := if exponent % 2 = 1 then result.mul base else result
  if exponent / 2 = 0 then result else powerOnto result (base.mul base) (exponent / 2)
termination_by exponent
decreasing_by omega

/-- The power by repeated squaring from the lowest bit of the exponent up, each product rounded. -/
def power (base : Binary64) (exponent : Nat) : Binary64 := powerOnto (ofNat 1) base exponent

theorem power_zero (base : Binary64) : base.power 0 = ofNat 1 := by
  rw [power, powerOnto]
  rfl

end Binary64

end HookRelay
