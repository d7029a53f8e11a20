import HookRelay.Text.Blank

/-!
Punycode: a label in ASCII letters, digits and hyphens for one in any characters. The ASCII
characters come first, then where each of the others is to be put in.
-/
namespace HookRelay.Punycode

def base : Nat := 36
def leastThreshold : Nat := 1
def greatestThreshold : Nat := 26
def skew : Nat := 38
def damping : Nat := 700
def firstBias : Nat := 72
def firstCode : Nat := 128

/-- A letter for a value below twenty-six, a digit for the ten above. -/
def digit (value : Nat) : Char := Char.ofNat (if value < 26 then 97 + value else 22 + value)

private def adaptFrom (bias : Nat) : Nat → Nat → Nat
  | 0, delta => bias + (base - leastThreshold + 1) * delta / (delta + skew)
  | fuel + 1, delta =>
    if (base - leastThreshold) * greatestThreshold / 2 < delta then
      adaptFrom (bias + base) fuel (delta / (base - leastThreshold))
    else bias + (base - leastThreshold + 1) * delta / (delta + skew)

/-- The bias after a number was written when `points` characters are placed. -/
def adapt (delta points : Nat) (first : Bool) : Nat :=
  let delta := if first then delta / damping else delta / 2
  let delta := delta + delta / points
  adaptFrom 0 delta delta

def threshold (position bias : Nat) : Nat :=
  Nat.min greatestThreshold (Nat.max leastThreshold (position - bias))

private def numberFrom (bias position : Nat) : Nat → Nat → List Char
  | 0, _ => []
  | fuel + 1, value =>
    let least := threshold position bias
    if value < least then [digit value]
    else
      digit (least + (value - least) % (base - least)) ::
        numberFrom bias (position + base) fuel ((value - least) / (base - least))

/-- A number in digits whose weights follow the bias. -/
def number (bias value : Nat) : List Char := numberFrom bias base (value + 1) value

structure Progress where
  code : Nat
  delta : Nat
  bias : Nat
  placed : Nat
  output : List Char

private def placeChar (basic code : Nat) (progress : Progress) (char : Char) : Progress :=
  if char.toNat < code then { progress with delta := progress.delta + 1 }
  else if char.toNat = code then
    { progress with
      output := progress.output ++ number progress.bias progress.delta
      bias := adapt progress.delta (progress.placed + 1) (progress.placed = basic)
      delta := 0
      placed := progress.placed + 1 }
  else progress

private def placeCode (label : List Char) (basic : Nat) (progress : Progress) (code : Nat) :
    Progress :=
  let progress := { progress with
    delta := progress.delta + (code - progress.code) * (progress.placed + 1) }
  let progress := label.foldl (placeChar basic code) progress
  { progress with delta := progress.delta + 1, code := code + 1 }

def encode (label : List Char) : List Char :=
  let basic := label.filter fun char => char.toNat < firstCode
  let codes := ((label.map Char.toNat).filter fun code => firstCode ≤ code).mergeSort.eraseDups
  let start : Progress :=
    ⟨firstCode, 0, firstBias, basic.length, basic ++ if basic.isEmpty then [] else ['-']⟩
  (codes.foldl (placeCode label basic.length) start).output

def digitValue? (char : Char) : Option Nat :=
  let code := char.toLower.toNat
  if 97 ≤ code && code ≤ 122 then some (code - 97)
  else if 48 ≤ code && code ≤ 57 then some (code - 22)
  else none

/-- Numbers and codes are held in thirty-two bits. -/
def numberLimit : Nat := 0x100000000

/-- Reads a number onto `total`, whose next digit has the given weight. -/
private def readNumber? (bias position weight total : Nat) :
    List Char → Option (Nat × List Char)
  | [] => none
  | char :: rest =>
    match digitValue? char with
    | none => none
    | some value =>
      let least := threshold position bias
      let total := total + value * weight
      if numberLimit ≤ total || numberLimit ≤ weight then none
      else if value < least then some (total, rest)
      else readNumber? bias (position + base) (weight * (base - least)) total rest

/-- Puts in the characters that the numbers tell, the place after the last one at `place`. -/
private def placeAll? (bias code place : Nat) (output : List Char) :
    Nat → List Char → Option (List Char)
  | _, [] => some output
  | 0, _ => none
  | fuel + 1, text =>
    match readNumber? bias base 1 place text with
    | none => none
    | some (sum, rest) =>
      let points := output.length + 1
      let next := code + sum / points
      let at_ := sum % points
      if 0x110000 ≤ next || (0xD800 ≤ next && next < 0xE000) then none
      else
        placeAll? (adapt (sum - place) points (place = 0)) next (at_ + 1)
          (output.take at_ ++ Char.ofNat next :: output.drop at_) fuel rest

/-- The label that a text in ASCII stands for. What comes before the last hyphen stands for itself.
-/
def decode? (text : List Char) : Option (List Char) :=
  let tail := (text.reverse.takeWhile (· ≠ '-')).reverse
  let basic := text.take (text.length - tail.length - 1)
  let encoded := if basic.isEmpty then text else tail
  placeAll? firstBias firstCode 0 basic encoded.length encoded

end HookRelay.Punycode
