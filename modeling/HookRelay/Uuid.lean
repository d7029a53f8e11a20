import HookRelay.Text.Hex
import HookRelay.Text.Blank

namespace HookRelay

structure Uuid where
  value : Nat
deriving DecidableEq, Repr

namespace Uuid

instance : LE Uuid := ⟨fun left right => left.value ≤ right.value⟩

instance (left right : Uuid) : Decidable (left ≤ right) :=
  inferInstanceAs (Decidable (left.value ≤ right.value))

theorem eq_of_value {left right : Uuid} (same : left.value = right.value) : left = right := by
  cases left
  cases right
  exact congrArg mk same

def text (id : Uuid) : String :=
  let digits := Hex.padded 32 id.value
  String.ofList <|
    digits.take 8 ++ ['-'] ++ (digits.drop 8).take 4 ++ ['-'] ++ (digits.drop 12).take 4 ++ ['-'] ++
      (digits.drop 16).take 4 ++ ['-'] ++ digits.drop 20

private def ofDigits? (digits : List Char) : Option Uuid :=
  if digits.length = 32 then (Hex.natValue? digits).map Uuid.mk else none

private def hyphenated? (text : List Char) : Option Uuid :=
  let groups := [text.take 8, (text.drop 9).take 4, (text.drop 14).take 4, (text.drop 19).take 4,
    text.drop 24]
  let marks := [text[8]?, text[13]?, text[18]?, text[23]?]
  if text.length = 36 && marks.all (· == some '-') then ofDigits? groups.flatten else none

/-- Reads thirty-two digits, or the hyphenated form: bare, in braces, or after `urn:uuid:`. -/
def read? (text : List Char) : Option Uuid :=
  if text.length = 32 then ofDigits? text
  else if text.length = 36 then hyphenated? text
  else if text.length = 38 then
    if text.head? = some '{' && text.getLast? = some '}' then hyphenated? ((text.drop 1).take 36)
    else none
  else if text.length = 45 then
    if Text.lowerAscii (text.take 9) = "urn:uuid:".toList then hyphenated? (text.drop 9) else none
  else none

end Uuid

end HookRelay
