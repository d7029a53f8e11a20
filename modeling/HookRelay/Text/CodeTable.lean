import HookRelay.Text.Hex

/-!
Properties of characters as tables. A row is a run of codes with a letter that says what they are
and numbers that go with it. In writing, a row is a word: how many codes lie between the row before
and this one, `*` and the number of its codes unless that is one, the letter, which comes after `f`,
and its numbers with commas between them. All numbers are hexadecimal.
-/
namespace HookRelay

structure CodeRow where
  first : Nat
  count : Nat
  tag : Char
  values : List Nat

/-- Rows in increasing order that do not overlap. -/
structure CodeTable where
  rows : Array CodeRow

namespace CodeTable

private def number (digits : List Char) : Nat := (Hex.natValue? digits).getD 0

private def readRow (next : Nat) (word : List Char) : CodeRow :=
  let (place, rest) := word.span fun char => char < 'g'
  let (gap, count) := place.span fun char => char ≠ '*'
  let values := (rest.drop 1).splitOn ','
  { first := next + number gap
    count := if count.isEmpty then 1 else number (count.drop 1)
    tag := rest.headD 'x'
    values := (values.filter fun digits => !digits.isEmpty).map number }

private def readOnto (rows : Array CodeRow) (next : Nat) : List (List Char) → Array CodeRow
  | [] => rows
  | word :: rest =>
    let row := readRow next word
    readOnto (rows.push row) (row.first + row.count) rest

def read (text : String) : CodeTable :=
  let words := (text.toList.map fun char => if char = '\n' then ' ' else char).splitOn ' '
  ⟨readOnto #[] 0 (words.filter fun word => !word.isEmpty)⟩

private def findIn (rows : Array CodeRow) (code low high : Nat) : Option CodeRow :=
  if low < high then
    let middle := (low + high) / 2
    match rows[middle]? with
    | none => none
    | some row =>
      if code < row.first then findIn rows code low middle
      else if row.first + row.count ≤ code then findIn rows code (middle + 1) high
      else some row
  else none
termination_by high - low

def find? (table : CodeTable) (char : Char) : Option CodeRow :=
  findIn table.rows char.toNat 0 table.rows.size

end CodeTable

end HookRelay
