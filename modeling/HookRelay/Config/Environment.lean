import HookRelay.Config.Toml

/-!
Values of environment variables: a boolean, a number, a list, a table, or a quoted string or
character where the whole text is one, and the text itself where it is not.
-/
namespace HookRelay.Environment

private def isAsciiBlank (char : Char) : Bool :=
  char = ' ' || char = '\t' || char = '\n' || char = '\x0c' || char = '\x0d'

private def skipBlanks (text : List Char) : List Char := text.dropWhile isAsciiBlank

private def isSeparator (char : Char) : Bool :=
  char = ',' || char = '\x7b' || char = '\x7d' || char = '[' || char = ']'

private def isKeyChar (char : Char) : Bool := char.isAlphanum || char = '_' || char = '-'

/-- A number without a sign or with a plus sign has sixty-four bits, another one sixty-three. -/
private def word? (text : List Char) : Option Int :=
  match Text.integer? text with
  | none => none
  | some value =>
    if text.head? = some '-' then (if -0x8000000000000000 ≤ value then some value else none)
    else if value < 0x10000000000000000 then some value
    else none

/-- What unquoted text stands for; a float has a point. -/
def ofWord (text : List Char) : Setting :=
  let text := Text.trim text
  let float? := if text.contains '.' then Binary64.read? text else none
  match float?, word? text with
  | some value, _ => .float value
  | none, some value => .integer value
  | none, none => .text (String.ofList text)

private def readKey? (text : List Char) : Option (String × List Char) :=
  match text with
  | '"' :: rest => Toml.readBasic? [] rest
  | _ =>
    let name := text.takeWhile isKeyChar
    if name.isEmpty then none else some (String.ofList name, text.drop name.length)

mutual
/-- Reads a value and the blanks around it. Two steps are enough for each character of the text. -/
private def readValue? : Nat → List Char → Option (Setting × List Char)
  | 0, _ => none
  | fuel + 1, text =>
    let finish (found : Option (Setting × List Char)) : Option (Setting × List Char) :=
      found.map fun (value, rest) => (value, skipBlanks rest)
    match skipBlanks text with
    | 't' :: 'r' :: 'u' :: 'e' :: rest => finish (some (.boolean true, rest))
    | 'f' :: 'a' :: 'l' :: 's' :: 'e' :: rest => finish (some (.boolean false, rest))
    | '\x7b' :: rest => finish (readEntries? fuel [] rest)
    | '[' :: rest => finish (readItems? fuel [] rest)
    | '"' :: rest =>
      finish ((Toml.readBasic? [] rest).map fun (text, rest) => (.text text, rest))
    | '\'' :: rest =>
      match rest with
      | char :: '\'' :: rest => finish (some (.text (String.ofList [char]), rest))
      | _ => none
    | text =>
      let word := text.takeWhile fun char => !isSeparator char
      some (ofWord word, text.drop word.length)

/-- Reads the rest of a list, which may end right after a comma. -/
private def readItems? : Nat → List Setting → List Char → Option (Setting × List Char)
  | 0, _, _ => none
  | _, reversed, ']' :: rest => some (.list reversed.reverse, rest)
  | fuel + 1, reversed, text =>
    match readValue? fuel text with
    | some (value, ',' :: rest) => readItems? fuel (value :: reversed) rest
    | some (value, ']' :: rest) => some (.list (value :: reversed).reverse, rest)
    | _ => none

/-- Reads the rest of a table, which may end right after a comma. -/
private def readEntries? :
    Nat → List (String × Setting) → List Char → Option (Setting × List Char)
  | 0, _, _ => none
  | _, reversed, '\x7d' :: rest => some (.table reversed.reverse, rest)
  | fuel + 1, reversed, text =>
    match readKey? (skipBlanks text) with
    | none => none
    | some (key, rest) =>
      match skipBlanks rest with
      | '=' :: rest =>
        match readValue? fuel rest with
        | some (value, ',' :: rest) => readEntries? fuel ((key, value) :: reversed) rest
        | some (value, '\x7d' :: rest) => some (.table ((key, value) :: reversed).reverse, rest)
        | _ => none
      | _ => none
end

def readValue (text : List Char) : Setting :=
  match readValue? (2 * text.length + 1) text with
  | some (value, []) => value
  | _ => .text (String.ofList text)

/-- The entries that variables give: those named for a field, in any case and with any blanks around
the name. -/
def entries (assignments : List (String × String)) : List (String × Setting) :=
  let names := Configuration.fields.map fun field => field.1
  assignments.filterMap fun (name, text) =>
    let name := String.ofList (Text.lowerAscii (Text.trim name.toList))
    if names.contains name then some (name, readValue text.toList) else none

end HookRelay.Environment
