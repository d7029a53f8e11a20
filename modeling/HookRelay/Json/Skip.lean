import HookRelay.Json.Reader

/-!
Passing over a JSON value without reading it. Only its form counts: numbers may be of any size,
escapes need not make characters, strings may hold what is no text, and containers may nest without
limit. The text is that of the bytes, each as the character of the same code.
-/
namespace HookRelay.Json

/-- How many characters an escape takes up after its backslash. -/
private def escapeSize? : List Char → Option Nat
  | 'u' :: rest => (hexUnit? rest).map fun _ => 5
  | char :: _ => if "\"\\/bfnrt".toList.contains char then some 1 else none
  | [] => none

def skipString? : List Char → Option (List Char)
  | [] => none
  | '"' :: rest => some rest
  | '\\' :: rest =>
    match escapeSize? rest with
    | some size => skipString? (rest.drop size)
    | none => none
  | char :: rest => if char.toNat < 0x20 then none else skipString? rest
termination_by text => text.length
decreasing_by all_goals simp only [List.length_cons, List.length_drop]; omega

private def skipDigits? (text : List Char) : Option (List Char) :=
  if text.head?.any Text.isDigit then some (text.dropWhile Text.isDigit) else none

private def skipExponent? (text : List Char) : Option (List Char) :=
  match text with
  | mark :: rest =>
    if mark = 'e' || mark = 'E' then
      match rest with
      | '+' :: rest => skipDigits? rest
      | '-' :: rest => skipDigits? rest
      | rest => skipDigits? rest
    else some text
  | [] => some []

private def skipNumber? (text : List Char) : Option (List Char) := do
  let rest ← skipDigits? text
  if text.head? = some '0' && text.length - rest.length ≠ 1 then none
  else match rest with
    | '.' :: rest => skipExponent? (← skipDigits? rest)
    | rest => skipExponent? rest

private def skipScalar? : List Char → Option (List Char)
  | 'n' :: rest => Text.afterLiteral? ['u', 'l', 'l'] rest
  | 't' :: rest => Text.afterLiteral? ['r', 'u', 'e'] rest
  | 'f' :: rest => Text.afterLiteral? ['a', 'l', 's', 'e'] rest
  | '"' :: rest => skipString? rest
  | '-' :: rest => skipNumber? rest
  | text => skipNumber? text

/-- What follows the key of a member and its colon. -/
def skipKey? (text : List Char) : Option (List Char) :=
  match skipSpace text with
  | '"' :: rest =>
    match (skipString? rest).map skipSpace with
    | some (':' :: rest) => some rest
    | _ => none
  | _ => none

/-- Whether a value comes next, or what stands after one. -/
private inductive Place where
  | value
  | afterValue

/-- What follows the outermost of the containers that are open, innermost first. -/
private def skipFrom? : Nat → Place → List Char → List Char → Option (List Char)
  | 0, _, _, _ => none
  | _, .afterValue, [], text => some text
  | fuel + 1, .afterValue, bracket :: outer, text =>
    match bracket, skipSpace text with
    | '[', ']' :: rest => skipFrom? fuel .afterValue outer rest
    | '[', ',' :: rest => skipFrom? fuel .value (bracket :: outer) rest
    | '\x7b', '\x7d' :: rest => skipFrom? fuel .afterValue outer rest
    | '\x7b', ',' :: rest =>
      match skipKey? rest with
      | some rest => skipFrom? fuel .value (bracket :: outer) rest
      | none => none
    | _, _ => none
  | fuel + 1, .value, containers, text =>
    match skipSpace text with
    | '[' :: rest =>
      match skipSpace rest with
      | ']' :: rest => skipFrom? fuel .afterValue containers rest
      | rest => skipFrom? fuel .value ('[' :: containers) rest
    | '\x7b' :: rest =>
      match skipSpace rest with
      | '\x7d' :: rest => skipFrom? fuel .afterValue containers rest
      | rest =>
        match skipKey? rest with
        | some rest => skipFrom? fuel .value ('\x7b' :: containers) rest
        | none => none
    | text =>
      match skipScalar? text with
      | some rest => skipFrom? fuel .afterValue containers rest
      | none => none

/-- What follows a value. Two steps are enough for each character. -/
def skipValue? (text : List Char) : Option (List Char) :=
  skipFrom? (2 * text.length + 2) .value [] text

end HookRelay.Json
