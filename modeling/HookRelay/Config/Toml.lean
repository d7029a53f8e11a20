import HookRelay.Config.Toml.Lexeme
import HookRelay.Config.Toml.Tree
import HookRelay.Config.Toml.Word

namespace HookRelay.Toml

mutual
/-- Reads a value inside `depth` arrays and inline tables; every step takes up a character, so the
length of the text is fuel enough. -/
private def readValue? : Nat → Nat → List Char → Option (Setting × List Char)
  | 0, _, _ => none
  | fuel + 1, depth, text =>
    match text with
    | '"' :: '"' :: '"' :: rest =>
      (readLong? '"' true (rest.length + 1) [] (afterFirstNewline rest)).map fun (text, rest) =>
        (.text text, rest)
    | '\'' :: '\'' :: '\'' :: rest =>
      (readLong? '\'' false (rest.length + 1) [] (afterFirstNewline rest)).map fun (text, rest) =>
        (.text text, rest)
    | '"' :: rest => (readBasic? [] rest).map fun (text, rest) => (.text text, rest)
    | '\'' :: rest => (readLiteral? rest).map fun (text, rest) => (.text text, rest)
    | '[' :: rest => if depth + 1 < depthLimit then readArray? fuel (depth + 1) [] rest else none
    | '\x7b' :: rest =>
      if depth + 1 < depthLimit then
        match skipBlanks rest with
        | '\x7d' :: rest => some (.table [], rest)
        | rest => readInline? fuel (depth + 1) [] rest
      else none
    | text =>
      let (word, rest) := readWord text
      (ofWord? word).map fun value => (value, rest)

private def readArray? : Nat → Nat → List Setting → List Char → Option (Setting × List Char)
  | 0, _, _, _ => none
  | fuel + 1, depth, reversed, text =>
    match skipLoose (text.length + 1) text with
    | ']' :: rest => some (.list reversed.reverse, rest)
    | text =>
      match readValue? fuel depth text with
      | none => none
      | some (value, rest) =>
        match skipLoose (rest.length + 1) rest with
        | ',' :: rest => readArray? fuel depth (value :: reversed) rest
        | ']' :: rest => some (.list (value :: reversed).reverse, rest)
        | _ => none

private def readInline? : Nat → Nat → Entries → List Char → Option (Setting × List Char)
  | 0, _, _, _ => none
  | fuel + 1, depth, entries, text =>
    match readPath? text with
    | some (path, '=' :: rest) =>
      match readValue? fuel depth (skipBlanks rest) with
      | none => none
      | some (value, rest) =>
        match addValue path value entries with
        | none => none
        | some entries =>
          match skipBlanks rest with
          | ',' :: rest => readInline? fuel depth entries rest
          | '\x7d' :: rest => some (.table (settings entries), rest)
          | _ => none
    | _ => none
end

private structure Document where
  current : List String
  root : Entries

private def addTo (document : Document) (path : List String) (value : Setting) : Option Document :=
  (descend false (fun _ entries => addValue path value entries) .header document.current
    document.root).map fun root => { document with root := root }

private def readHeader? (document : Document) (array : Bool) (text : List Char) :
    Option (Document × List Char) := do
  let (path, rest) ← readPath? text
  let rest ← Text.afterLiteral? (if array then [']', ']'] else [']']) rest
  let root ← if array then openArray path document.root else openTable path document.root
  let rest ← endLine? rest
  pure (⟨path, root⟩, rest)

private def readLine? (document : Document) (text : List Char) : Option (Document × List Char) :=
  match skipBlanks text with
  | '[' :: '[' :: rest => readHeader? document true rest
  | '[' :: rest => readHeader? document false rest
  | line =>
    match endLine? line with
    | some rest => some (document, rest)
    | none => do
      let (path, rest) ← readPath? line
      let rest ← Text.afterLiteral? ['='] rest
      let (value, rest) ← readValue? (rest.length + 1) 0 (skipBlanks rest)
      let document ← addTo document path value
      pure (document, ← endLine? rest)

private def readLines? : Nat → Document → List Char → Option Document
  | 0, _, _ => none
  | fuel + 1, document, text =>
    match text with
    | [] => some document
    | _ =>
      match readLine? document text with
      | some (document, rest) => readLines? fuel document rest
      | none => none

/-- The entries of a document; a byte order mark before it is passed over. -/
def readText? (text : List Char) : Option (List (String × Setting)) :=
  let text := (Text.afterLiteral? ['\uFEFF'] text).getD text
  (readLines? (text.length + 1) ⟨[], []⟩ text).map fun document => settings document.root

def read? (bytes : Bytes) : Option (List (String × Setting)) := (Utf8.decode? bytes).bind readText?

end HookRelay.Toml
