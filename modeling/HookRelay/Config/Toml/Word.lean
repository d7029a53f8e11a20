import HookRelay.Config.Setting
import HookRelay.Time.Calendar

namespace HookRelay.Toml

/-- The digits of a number without the underscores, each of which stands between two digits. -/
private def digits? (isDigit : Char → Bool) : List Char → Option (List Char)
  | [] => none
  | [digit] => if isDigit digit then some [digit] else none
  | digit :: '_' :: rest =>
    if isDigit digit then (digits? isDigit rest).map (digit :: ·) else none
  | digit :: rest => if isDigit digit then (digits? isDigit rest).map (digit :: ·) else none

private def based? (base : Nat) (text : List Char) : Option Int := do
  let digits ← digits? (fun char => (Hex.value? char).any (· < base)) text
  let value := digits.foldl (fun total char => total * base + (Hex.value? char).getD 0) 0
  if value < 0x8000000000000000 then some value else none

private def signed : List Char → Bool × List Char
  | '-' :: rest => (true, rest)
  | '+' :: rest => (false, rest)
  | rest => (false, rest)

private def wholeDigits? (text : List Char) : Option (List Char) := do
  let digits ← digits? Text.isDigit text
  if digits.head? = some '0' && 1 < digits.length then none else some digits

private def decimal? (text : List Char) : Option Int := do
  let (negative, body) := signed text
  let value := Text.decimalValue (← wholeDigits? body)
  if negative then
    if value ≤ 0x8000000000000000 then some (-(value : Int)) else none
  else if value < 0x8000000000000000 then some value else none

def readInteger? (text : List Char) : Option Int :=
  match text with
  | '0' :: 'x' :: rest => based? 16 rest
  | '0' :: 'o' :: rest => based? 8 rest
  | '0' :: 'b' :: rest => based? 2 rest
  | _ => decimal? text

/-- A decimal number with a fraction, an exponent or both, or one of the two words; a number too
great for the format is refused. -/
def readFloat? (text : List Char) : Option Binary64 := do
  let (negative, body) := signed text
  if body = ['i', 'n', 'f'] then some (.infinite negative)
  else if body = ['n', 'a', 'n'] then some .nan
  else
    let mantissa := body.takeWhile fun char => char ≠ 'e' && char ≠ 'E'
    let marked := body.drop mantissa.length
    let whole ← wholeDigits? (mantissa.takeWhile (· ≠ '.'))
    let pointed := mantissa.dropWhile (· ≠ '.')
    let fraction ← match pointed with
      | [] => some []
      | _ :: rest => digits? Text.isDigit rest
    let exponent : Int ← match marked with
      | [] => if pointed.isEmpty then none else some 0
      | _ :: rest =>
        let (down, rest) := signed rest
        (digits? Text.isDigit rest).map fun digits =>
          let value : Int := Text.decimalValue digits
          if down then -value else value
    let value := Binary64.ofDecimal negative (Text.decimalValue (whole ++ fraction))
      (exponent - fraction.length)
    if value = .infinite false then none else some value

private def field? (text : List Char) (low high : Nat) : Option Nat :=
  if text.length = 2 && text.all Text.isDigit then
    let value := Text.decimalValue text
    if low ≤ value && value ≤ high then some value else none
  else none

private def isDate (text : List Char) : Bool :=
  match text with
  | [a, b, c, d, '-', e, f, '-', g, h] =>
    let date? := do
      let month ← field? [e, f] 1 12
      let day ← field? [g, h] 1 31
      pure (Date.mk (Text.decimalValue [a, b, c, d]) month day)
    [a, b, c, d].all Text.isDigit && date?.any Date.valid
  | _ => false

private def isZone (text : List Char) : Bool :=
  match text with
  | ['Z'] => true
  | ['z'] => true
  | [sign, a, b, ':', c, d] =>
    (sign = '+' || sign = '-') && (field? [a, b] 0 23).isSome && (field? [c, d] 0 59).isSome
  | _ => false

/-- A time of day, with a zone behind it if `zoned`. -/
private def isTime (zoned : Bool) (text : List Char) : Bool :=
  match text with
  | a :: b :: ':' :: c :: d :: ':' :: e :: f :: rest =>
    let fraction := (rest.drop 1).takeWhile Text.isDigit
    let after := if rest.head? = some '.' then rest.drop (1 + fraction.length) else rest
    (field? [a, b] 0 23).isSome && (field? [c, d] 0 59).isSome && (field? [e, f] 0 60).isSome &&
      (rest.head? ≠ some '.' || !fraction.isEmpty) && (after.isEmpty || (zoned && isZone after))
  | _ => false

/-- A date, a time, or both with a letter or a space between them. -/
def isDateTime (text : List Char) : Bool :=
  let date := text.take 10
  let rest := text.drop 10
  if isDate date then
    match rest with
    | [] => true
    | mark :: time => (mark = 'T' || mark = 't' || mark = ' ') && isTime true time
  else isTime false text

private def isWord (char : Char) : Bool :=
  char.isAlphanum || char = '_' || char = '+' || char = '-' || char = '.' || char = ':'

/-- A word, with the time after a space that belongs to a date. -/
def readWord (text : List Char) : List Char × List Char :=
  let word := text.takeWhile isWord
  let rest := text.drop word.length
  match rest with
  | ' ' :: more =>
    let time := more.takeWhile isWord
    if isDate word && (more.head?.any Text.isDigit) then
      (word ++ ' ' :: time, more.drop time.length)
    else (word, rest)
  | _ => (word, rest)

def ofWord? (word : List Char) : Option Setting :=
  if word = "true".toList then some (.boolean true)
  else if word = "false".toList then some (.boolean false)
  else if isDateTime word then
    some (.table [("datetime", .text (String.ofList word))])
  else ((readInteger? word).map Setting.integer).or ((readFloat? word).map Setting.float)

end HookRelay.Toml
