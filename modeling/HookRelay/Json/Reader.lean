import HookRelay.Json.Value
import HookRelay.Text.Hex

/-!
Reading JSON text. `readTree?` keeps members as they are written; `read?` brings them to normal
form.
-/
namespace HookRelay.Json

/-- Containers nest at most this deep. -/
def greatestDepth : Nat := 127

def isSpace (char : Char) : Bool := char = ' ' || char = '\t' || char = '\n' || char = '\x0d'

def skipSpace (text : List Char) : List Char := text.dropWhile isSpace

def significandLimit : Nat := 0x10000000000000000

/-- The digits of a number gathered into a significand below `2 ^ 64`, and a power of ten. -/
structure Gathered where
  significand : Nat
  exponent : Int
  full : Bool

/-- Once the significand would overflow, a digit before the point raises the exponent instead. -/
def Gathered.whole (gathered : Gathered) (digit : Nat) : Gathered :=
  if gathered.full || significandLimit ≤ gathered.significand * 10 + digit then
    ⟨gathered.significand, gathered.exponent + 1, true⟩
  else ⟨gathered.significand * 10 + digit, gathered.exponent, false⟩

/-- Once the significand would overflow, digits after the point are dropped. -/
def Gathered.fraction (gathered : Gathered) (digit : Nat) : Gathered :=
  if gathered.full || significandLimit ≤ gathered.significand * 10 + digit then
    ⟨gathered.significand, gathered.exponent, true⟩
  else ⟨gathered.significand * 10 + digit, gathered.exponent - 1, false⟩

def greatestTenPower : Nat := 308

/-- `value * 10 ^ exponent` with one rounding for each power of ten used; none if it overflows. -/
def scale? (value : Binary64) (exponent : Int) : Option Binary64 :=
  if exponent.natAbs ≤ greatestTenPower then
    if 0 ≤ exponent then
      let scaled := value.mul (Binary64.ofNat (Nat.pow 10 exponent.toNat))
      if scaled.isFinite then some scaled else none
    else some (value.div (Binary64.ofNat (Nat.pow 10 (-exponent).toNat)))
  else if value.isZero then some value
  else if 0 ≤ exponent then none
  else
    scale? (value.div (Binary64.ofNat (Nat.pow 10 greatestTenPower))) (exponent + greatestTenPower)
termination_by exponent.natAbs
decreasing_by
  unfold greatestTenPower at *
  omega

def Gathered.float? (gathered : Gathered) (negative : Bool) : Option Number :=
  (scale? (Binary64.ofNat gathered.significand) gathered.exponent).map fun value =>
    .float (if negative then value.neg else value)

/-- An integer if one of the two word sizes holds it; minus zero is a float. -/
def wholeNumber (negative : Bool) (value : Nat) : Number :=
  if !negative then .integer value
  else if value = 0 || 0x8000000000000000 < value then .float (Binary64.ofNat value).neg
  else .integer (-(value : Int))

/-- A written exponent at or past this one is not counted out. -/
def exponentLimit : Nat := 0x80000000

/-- Reads the exponent after its mark, if there is one, and concludes the number. -/
def finishNumber? (gathered : Gathered) (negative isWhole : Bool) (text : List Char) :
    Option (Number × List Char) :=
  let marked (text : List Char) : Option (Number × List Char) :=
    let (down, text) : Bool × List Char :=
      match text with
      | '+' :: rest => (false, rest)
      | '-' :: rest => (true, rest)
      | rest => (false, rest)
    let digits := text.takeWhile Text.isDigit
    let rest := text.dropWhile Text.isDigit
    if digits.isEmpty then none
    else
      let exponent := Text.decimalValue digits
      if exponentLimit ≤ exponent then
        if gathered.significand ≠ 0 && !down then none
        else some (.float (Binary64.zero negative), rest)
      else
        let signed : Int := if down then -exponent else exponent
        let gathered := { gathered with exponent := gathered.exponent + signed }
        (gathered.float? negative).map (·, rest)
  match text with
  | 'e' :: rest => marked rest
  | 'E' :: rest => marked rest
  | rest =>
    if isWhole && !gathered.full then some (wholeNumber negative gathered.significand, rest)
    else (gathered.float? negative).map (·, rest)

def readNumber? (negative : Bool) (text : List Char) : Option (Number × List Char) :=
  let whole := text.takeWhile Text.isDigit
  let rest := text.dropWhile Text.isDigit
  if whole.isEmpty || (whole.length > 1 && whole.head? == some '0') then none
  else
    let gathered : Gathered :=
      whole.foldl (fun gathered char => gathered.whole (Text.digitValue char)) ⟨0, 0, false⟩
    match rest with
    | '.' :: rest =>
      let digits := rest.takeWhile Text.isDigit
      let rest := rest.dropWhile Text.isDigit
      if digits.isEmpty then none
      else
        let start : Gathered := { gathered with full := false }
        let gathered :=
          digits.foldl (fun gathered char => gathered.fraction (Text.digitValue char)) start
        finishNumber? gathered negative false rest
    | rest => finishNumber? gathered negative true rest

def hexUnit? (text : List Char) : Option Nat :=
  let digits := text.take 4
  if digits.length = 4 then Hex.natValue? digits else none

/-- The character of an escape after its backslash, and how many characters it takes up. A code unit
of a surrogate pair stands only before or after its other half. -/
def escape? : List Char → Option (Char × Nat)
  | '"' :: _ => some ('"', 1)
  | '\\' :: _ => some ('\\', 1)
  | '/' :: _ => some ('/', 1)
  | 'b' :: _ => some ('\x08', 1)
  | 'f' :: _ => some ('\x0c', 1)
  | 'n' :: _ => some ('\n', 1)
  | 'r' :: _ => some ('\x0d', 1)
  | 't' :: _ => some ('\t', 1)
  | 'u' :: rest => do
    let unit ← hexUnit? rest
    if 0xD800 ≤ unit ∧ unit < 0xDC00 then
      match rest.drop 4 with
      | '\\' :: 'u' :: more =>
        let low ← hexUnit? more
        if 0xDC00 ≤ low ∧ low < 0xE000 then
          some (Char.ofNat (0x10000 + (unit - 0xD800) * 0x400 + (low - 0xDC00)), 11)
        else none
      | _ => none
    else if 0xDC00 ≤ unit ∧ unit < 0xE000 then none
    else some (Char.ofNat unit, 5)
  | _ => none

def readString? (reversed : List Char) : List Char → Option (String × List Char)
  | [] => none
  | '"' :: rest => some (String.ofList reversed.reverse, rest)
  | '\\' :: rest =>
    match escape? rest with
    | some (char, used) => readString? (char :: reversed) (rest.drop used)
    | none => none
  | char :: rest => if char.toNat < 0x20 then none else readString? (char :: reversed) rest
termination_by text => text.length
decreasing_by all_goals simp only [List.length_cons, List.length_drop]; omega

mutual
/-- Reads a value with at most `depth` more containers inside each other. Every step takes up a
character, so the length of the text is fuel enough. -/
def readValue? : Nat → Nat → List Char → Option (Value × List Char)
  | 0, _, _ => none
  | fuel + 1, depth, text =>
    match skipSpace text with
    | 'n' :: rest => (Text.afterLiteral? ['u', 'l', 'l'] rest).map (Value.null, ·)
    | 't' :: rest => (Text.afterLiteral? ['r', 'u', 'e'] rest).map (Value.bool true, ·)
    | 'f' :: rest => (Text.afterLiteral? ['a', 'l', 's', 'e'] rest).map (Value.bool false, ·)
    | '"' :: rest => (readString? [] rest).map fun (text, rest) => (.string text, rest)
    | '-' :: rest => (readNumber? true rest).map fun (value, rest) => (.number value, rest)
    | '[' :: rest =>
      match depth with
      | 0 => none
      | depth + 1 =>
        match skipSpace rest with
        | ']' :: rest => some (.array [], rest)
        | rest => readItems? fuel depth [] rest
    | '\x7b' :: rest =>
      match depth with
      | 0 => none
      | depth + 1 =>
        match skipSpace rest with
        | '\x7d' :: rest => some (.object [], rest)
        | rest => readMembers? fuel depth [] rest
    | text => (readNumber? false text).map fun (value, rest) => (.number value, rest)

def readItems? : Nat → Nat → List Value → List Char → Option (Value × List Char)
  | 0, _, _, _ => none
  | fuel + 1, depth, reversed, text =>
    match readValue? fuel depth text with
    | none => none
    | some (item, rest) =>
      match skipSpace rest with
      | ',' :: rest => readItems? fuel depth (item :: reversed) rest
      | ']' :: rest => some (.array (item :: reversed).reverse, rest)
      | _ => none

def readMembers? : Nat → Nat → List (String × Value) → List Char → Option (Value × List Char)
  | 0, _, _, _ => none
  | fuel + 1, depth, reversed, text =>
    match skipSpace text with
    | '"' :: rest =>
      match readString? [] rest with
      | none => none
      | some (key, rest) =>
        match skipSpace rest with
        | ':' :: rest =>
          match readValue? fuel depth rest with
          | none => none
          | some (value, rest) =>
            match skipSpace rest with
            | ',' :: rest => readMembers? fuel depth ((key, value) :: reversed) rest
            | '\x7d' :: rest => some (.object ((key, value) :: reversed).reverse, rest)
            | _ => none
        | _ => none
    | _ => none
end

/-- The value a text denotes, with the members of its objects as written. -/
def treeOfText? (text : List Char) : Option Value :=
  match readValue? (text.length + 1) greatestDepth text with
  | some (value, rest) => if (skipSpace rest).isEmpty then some value else none
  | none => none

def readTree? (bytes : Bytes) : Option Value := (Utf8.decode? bytes).bind treeOfText?

def read? (bytes : Bytes) : Option Value := (readTree? bytes).map Value.normal

end HookRelay.Json
