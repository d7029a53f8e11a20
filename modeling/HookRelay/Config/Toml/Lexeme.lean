import HookRelay.Text.Hex

namespace HookRelay.Toml

private def isBlank (char : Char) : Bool := char = ' ' || char = '\t'

def skipBlanks (text : List Char) : List Char := text.dropWhile isBlank

private def isPrintable (char : Char) : Bool :=
  char = '\t' || (0x20 ≤ char.toNat && char.toNat ≠ 0x7F)

def newline? : List Char → Option (List Char)
  | '\n' :: rest => some rest
  | '\x0d' :: '\n' :: rest => some rest
  | _ => none

/-- The text after a comment, if one starts here; a comment ends before the end of its line. -/
private def skipComment : List Char → List Char
  | '#' :: rest => rest.dropWhile isPrintable
  | text => text

/-- What is left after the end of a line, blanks and a comment before it. -/
def endLine? (text : List Char) : Option (List Char) :=
  match skipComment (skipBlanks text) with
  | [] => some []
  | rest => newline? rest

/-- Skips blanks, comments and line ends inside an array. -/
def skipLoose : Nat → List Char → List Char
  | 0, text => text
  | fuel + 1, text =>
    match skipComment (skipBlanks text) with
    | '\n' :: rest => skipLoose fuel rest
    | '\x0d' :: '\n' :: rest => skipLoose fuel rest
    | rest => rest

private def scalar? (digits : List Char) (count : Nat) : Option (Char × Nat) := do
  if digits.length ≠ count then none
  else
    let value ← Hex.natValue? digits
    if value < 0xD800 ∨ (0xE000 ≤ value ∧ value < 0x110000) then
      some (Char.ofNat value, count + 1)
    else none

/-- The character of an escape after its backslash, and how many characters it takes up. -/
def escape? : List Char → Option (Char × Nat)
  | 'b' :: _ => some ('\x08', 1)
  | 't' :: _ => some ('\t', 1)
  | 'n' :: _ => some ('\n', 1)
  | 'f' :: _ => some ('\x0c', 1)
  | 'r' :: _ => some ('\x0d', 1)
  | '"' :: _ => some ('"', 1)
  | '\\' :: _ => some ('\\', 1)
  | 'u' :: rest => scalar? (rest.take 4) 4
  | 'U' :: rest => scalar? (rest.take 8) 8
  | _ => none

/-- Reads a string of one line after its opening quote. -/
def readBasic? (reversed : List Char) : List Char → Option (String × List Char)
  | [] => none
  | '"' :: rest => some (String.ofList reversed.reverse, rest)
  | '\\' :: rest =>
    match escape? rest with
    | some (char, used) => readBasic? (char :: reversed) (rest.drop used)
    | none => none
  | char :: rest => if isPrintable char then readBasic? (char :: reversed) rest else none
termination_by text => text.length
decreasing_by all_goals simp only [List.length_cons, List.length_drop]; omega

def readLiteral? (text : List Char) : Option (String × List Char) :=
  let inner := text.takeWhile fun char => isPrintable char && char ≠ '\''
  match text.drop inner.length with
  | '\'' :: rest => some (String.ofList inner, rest)
  | _ => none

/-- Up to two quotes before the closing three belong to the string. -/
private def closeLong (quote : Char) (reversed rest : List Char) : String × List Char :=
  let extra := ((rest.take 2).takeWhile (· = quote)).length
  (String.ofList (List.replicate extra quote ++ reversed).reverse, rest.drop extra)

private def skipLines : Nat → List Char → List Char
  | 0, text => text
  | fuel + 1, text =>
    let text := skipBlanks text
    match newline? text with
    | some rest => skipLines fuel rest
    | none => text

/-- Reads a string of several lines after its opening quotes. In one with escapes a backslash at the
end of a line joins it to the next text. -/
def readLong? (quote : Char) (escapes : Bool) :
    Nat → List Char → List Char → Option (String × List Char)
  | 0, _, _ => none
  | fuel + 1, reversed, text =>
    match text with
    | [] => none
    | '\x0d' :: '\n' :: rest => readLong? quote escapes fuel ('\n' :: reversed) rest
    | '\n' :: rest => readLong? quote escapes fuel ('\n' :: reversed) rest
    | char :: rest =>
      if char = quote && rest.take 2 = [quote, quote] then
        some (closeLong quote reversed (rest.drop 2))
      else if escapes && char = '\\' then
        match newline? (skipBlanks rest) with
        | some rest =>
          readLong? quote escapes fuel reversed (skipLines (rest.length + 1) rest)
        | none =>
          match escape? rest with
          | some (char, used) => readLong? quote escapes fuel (char :: reversed) (rest.drop used)
          | none => none
      else if isPrintable char then readLong? quote escapes fuel (char :: reversed) rest
      else none

def afterFirstNewline (text : List Char) : List Char := (newline? text).getD text

private def isBareKey (char : Char) : Bool := char.isAlphanum || char = '_' || char = '-'

private def readKey? : List Char → Option (String × List Char)
  | '"' :: rest => readBasic? [] rest
  | '\'' :: rest => readLiteral? rest
  | text =>
    let name := text.takeWhile isBareKey
    if name.isEmpty then none else some (String.ofList name, text.drop name.length)

/-- The first depth of keys, arrays and inline tables that is too deep. -/
def depthLimit : Nat := 80

private def readKeys? : Nat → List Char → Option (List String × List Char)
  | 0, _ => none
  | fuel + 1, text =>
    match readKey? (skipBlanks text) with
    | none => none
    | some (key, rest) =>
      match skipBlanks rest with
      | '.' :: rest => (readKeys? fuel rest).map fun (path, rest) => (key :: path, rest)
      | rest => some ([key], rest)

def readPath? (text : List Char) : Option (List String × List Char) :=
  match readKeys? (text.length + 1) text with
  | some (path, rest) => if path.length < depthLimit then some (path, rest) else none
  | none => none

end HookRelay.Toml
