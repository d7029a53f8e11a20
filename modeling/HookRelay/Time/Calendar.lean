import HookRelay.Time.Instant

namespace HookRelay

structure Date where
  year : Int
  month : Nat
  day : Nat
deriving DecidableEq, Repr

namespace Date

def isLeap (year : Int) : Bool := year % 4 == 0 && (year % 100 != 0 || year % 400 == 0)

def daysInMonth (year : Int) (month : Nat) : Nat :=
  if month = 2 then (if isLeap year then 29 else 28)
  else if month = 4 || month = 6 || month = 9 || month = 11 then 30 else 31

def valid (date : Date) : Bool :=
  1 ≤ date.month && date.month ≤ 12 && 1 ≤ date.day && date.day ≤ daysInMonth date.year date.month

/-- Days since 1970-01-01, counting years from March in eras of four hundred. -/
def toDays (date : Date) : Int :=
  let year := if date.month ≤ 2 then date.year - 1 else date.year
  let era := year.fdiv 400
  let yearOfEra := year - era * 400
  let monthFromMarch : Int := if date.month > 2 then date.month - 3 else date.month + 9
  let dayOfYear := (153 * monthFromMarch + 2) / 5 + date.day - 1
  let dayOfEra := yearOfEra * 365 + yearOfEra / 4 - yearOfEra / 100 + dayOfYear
  era * 146097 + dayOfEra - 719468

def ofDays (days : Int) : Date :=
  let shifted := days + 719468
  let era := shifted.fdiv 146097
  let dayOfEra := shifted - era * 146097
  let yearOfEra := (dayOfEra - dayOfEra / 1460 + dayOfEra / 36524 - dayOfEra / 146096) / 365
  let dayOfYear := dayOfEra - (365 * yearOfEra + yearOfEra / 4 - yearOfEra / 100)
  let monthFromMarch := (5 * dayOfYear + 2) / 153
  let day := dayOfYear - (153 * monthFromMarch + 2) / 5 + 1
  let month := if monthFromMarch < 10 then monthFromMarch + 3 else monthFromMarch - 9
  let year := yearOfEra + era * 400 + if month ≤ 2 then 1 else 0
  ⟨year, month.toNat, day.toNat⟩

end Date

/-- What a clock on the wall shows: a day counted from 1970-01-01, a second of that day, and
nanoseconds, which run on past a second inside a leap second. -/
structure Reading where
  day : Int
  second : Nat
  nanos : Nat
deriving DecidableEq, Repr

namespace Reading

def secondsPerDay : Nat := 86400

def ofInstant (instant : Instant) : Reading :=
  let seconds := instant.seconds
  ⟨seconds.fdiv secondsPerDay, (seconds.fmod secondsPerDay).toNat,
    (instant.nanos.fmod 1000000000).toNat⟩

/-- The year in four digits, with a sign and as many digits as it needs outside 0 to 9999. -/
def yearText (year : Int) : List Char :=
  if 0 ≤ year && year ≤ 9999 then Text.padNat 4 year.natAbs
  else (if year < 0 then '-' else '+') :: Text.padNat 4 year.natAbs

/-- No digits, or three, six or nine: the fewest that are exact. -/
def fractionText (nanos : Nat) : List Char :=
  if nanos = 0 then []
  else if nanos % 1000000 = 0 then '.' :: Text.padNat 3 (nanos / 1000000)
  else if nanos % 1000 = 0 then '.' :: Text.padNat 6 (nanos / 1000)
  else '.' :: Text.padNat 9 nanos

/-- RFC 3339 text with the given zone at its end; a leap second is written as second sixty. -/
def text (zone : String) (reading : Reading) : String :=
  let date := Date.ofDays reading.day
  let leap := if 1000000000 ≤ reading.nanos then 1 else 0
  let second := reading.second % 60 + leap
  String.ofList <|
    yearText date.year ++ ['-'] ++ Text.padNat 2 date.month ++ ['-'] ++ Text.padNat 2 date.day ++
      ['T'] ++ Text.padNat 2 (reading.second / 3600) ++ [':'] ++
      Text.padNat 2 (reading.second / 60 % 60) ++ [':'] ++ Text.padNat 2 second ++
      fractionText (reading.nanos % 1000000000) ++ zone.toList

private def number? (most : Nat) (text : List Char) : Option (Nat × List Char) :=
  let digits := (text.take most).takeWhile Text.isDigit
  if digits.isEmpty then none else some (Text.decimalValue digits, text.drop digits.length)

/-- A number of at most `most` digits after blanks, within bounds. -/
private def field? (most low high : Nat) (text : List Char) : Option (Nat × List Char) := do
  let (value, rest) ← number? most (Text.trimStart text)
  if low ≤ value && value ≤ high then some (value, rest) else none

private def separator? (mark : Char) (text : List Char) : Option (List Char) :=
  Text.afterLiteral? [mark] (Text.trimStart text)

/-- A signed year has any number of digits, an unsigned one at most four. -/
private def year? (text : List Char) : Option (Int × List Char) :=
  match Text.trimStart text with
  | '-' :: rest => (number? rest.length rest).map fun (value, rest) => (- Int.ofNat value, rest)
  | '+' :: rest => (number? rest.length rest).map fun (value, rest) => (Int.ofNat value, rest)
  | rest => (number? 4 rest).map fun (value, rest) => (Int.ofNat value, rest)

/-- Nine digits of a fraction count and further ones are passed over. -/
private def fraction? : List Char → Option (Nat × List Char)
  | '.' :: text =>
    let digits := text.takeWhile Text.isDigit
    let used := digits.take 9
    if digits.isEmpty then none
    else some (Text.decimalValue used * Nat.pow 10 (9 - used.length), text.drop digits.length)
  | text => some (0, text)

private def zone? (text : List Char) : Option (Int × List Char) :=
  let upper := (text.take 3).map Char.toUpper
  if upper = ['U', 'T', 'C'] then some (0, text.drop 3)
  else
    let signed (negative : Bool) (rest : List Char) : Option (Int × List Char) :=
      match rest with
      | tens :: ones :: rest =>
        if !(Text.isDigit tens && Text.isDigit ones) then none
        else
          let hours := Text.digitValue tens * 10 + Text.digitValue ones
          match rest.dropWhile fun char => char = ':' || Text.isBlank char with
          | tens :: ones :: rest =>
            if !(Text.isDigit tens && Text.isDigit ones) || 5 < Text.digitValue tens then none
            else
              let minutes := Text.digitValue tens * 10 + Text.digitValue ones
              let offset : Int := hours * 3600 + minutes * 60
              some (if negative then -offset else offset, rest)
          | _ => none
      | _ => none
    match text with
    | 'Z' :: rest => some (0, rest)
    | 'z' :: rest => some (0, rest)
    | '+' :: rest => signed false rest
    | '-' :: rest => signed true rest
    | '\u2212' :: rest => signed true rest
    | _ => none

/-- Reads RFC 3339 text, with blanks before its numbers and separators, a space or either case of
`T` before the time, and any zone below a day; the result is in UTC and inside the calendar. -/
def read? (text : List Char) : Option Reading := do
  let (year, text) ← year? text
  let text ← separator? '-' text
  let (month, text) ← field? 2 1 12 text
  let text ← separator? '-' text
  let (day, text) ← field? 2 1 31 text
  let text ← match text with
    | 'T' :: rest => some rest
    | 't' :: rest => some rest
    | ' ' :: rest => some rest
    | _ => none
  let (hour, text) ← field? 2 0 23 text
  let text ← separator? ':' text
  let (minute, text) ← field? 2 0 59 text
  let text ← separator? ':' text
  let (second, text) ← field? 2 0 60 text
  let (fraction, text) ← fraction? text
  let (offset, text) ← zone? (Text.trimStart text)
  let date : Date := ⟨year, month, day⟩
  let inYears := -262143 ≤ year && year ≤ 262142
  let leap : Nat := if second = 60 then 1 else 0
  let total : Int :=
    date.toDays * secondsPerDay + hour * 3600 + minute * 60 + (second - leap) - offset
  let reading : Reading := ⟨total.fdiv secondsPerDay, (total.fmod secondsPerDay).toNat,
    leap * 1000000000 + fraction⟩
  let inCalendar := Instant.earliest.seconds ≤ total && total ≤ Instant.latest.seconds
  let ends := (Text.trimStart text).isEmpty
  if date.valid && inYears && inCalendar && offset.natAbs < secondsPerDay && ends then
    some reading
  else none

end Reading

def Instant.text (instant : Instant) : String := (Reading.ofInstant instant).text "Z"

/-- RFC 3339 in UTC with the zone written as an offset. -/
def Instant.offsetText (instant : Instant) : String := (Reading.ofInstant instant).text "+00:00"

end HookRelay
