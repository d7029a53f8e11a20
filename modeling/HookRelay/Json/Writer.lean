import HookRelay.Json.Value
import HookRelay.Text.Hex

namespace HookRelay.Json

/-- Floats have a point, and an exponent below `1e-5` and from `1e16` on. -/
def floatLayout : Binary64.Layout := ⟨-5, 15, true, "null", "null"⟩

def writeInteger (value : Int) : List Char :=
  (if value < 0 then ['-'] else []) ++ Nat.toDigits 10 value.natAbs

def Number.write : Number → List Char
  | .integer value => writeInteger value
  | .float value => floatLayout.write value

/-- Quotes, backslashes and controls are escaped, and nothing else. -/
def escape (char : Char) : List Char :=
  if char = '"' then ['\\', '"']
  else if char = '\\' then ['\\', '\\']
  else if char = '\x08' then ['\\', 'b']
  else if char = '\x0c' then ['\\', 'f']
  else if char = '\n' then ['\\', 'n']
  else if char = '\x0d' then ['\\', 'r']
  else if char = '\t' then ['\\', 't']
  else if char.toNat < 0x20 then ['\\', 'u'] ++ Hex.padded 4 char.toNat
  else [char]

def writeString (text : String) : List Char := '"' :: (text.toList.flatMap escape ++ ['"'])

mutual
def Value.write : Value → List Char
  | .null => ['n', 'u', 'l', 'l']
  | .bool true => ['t', 'r', 'u', 'e']
  | .bool false => ['f', 'a', 'l', 's', 'e']
  | .number value => value.write
  | .string text => writeString text
  | .array [] => ['[', ']']
  | .array (item :: rest) => '[' :: (item.write ++ writeItems rest)
  | .object [] => ['\x7b', '\x7d']
  | .object ((key, value) :: rest) =>
    '\x7b' :: (writeString key ++ ':' :: (value.write ++ writeMembers rest))

def writeItems : List Value → List Char
  | [] => [']']
  | item :: rest => ',' :: (item.write ++ writeItems rest)

def writeMembers : List (String × Value) → List Char
  | [] => ['\x7d']
  | (key, value) :: rest => ',' :: (writeString key ++ ':' :: (value.write ++ writeMembers rest))
end

def Value.text (value : Value) : String := String.ofList value.write

/-- The bytes that stand for a value whatever its spelling was. -/
def canonical (value : Value) : Bytes := Utf8.encode value.normal.write

end HookRelay.Json
