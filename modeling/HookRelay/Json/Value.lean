import HookRelay.Binary64.Decimal
import HookRelay.Text.Hex

/-!
JSON values. An object is a list of members; in normal form its keys are in increasing order, none
twice. Keys are compared by code point, which is the order of their UTF-8 bytes.
-/
namespace HookRelay.Json

/-- Integers from `-2 ^ 63` to `2 ^ 64 - 1` stay integers; any other number is a finite float. -/
inductive Number where
  | integer (value : Int)
  | float (value : Binary64)
deriving DecidableEq, Repr

inductive Value where
  | null
  | bool (value : Bool)
  | number (value : Number)
  | string (value : String)
  | array (items : List Value)
  | object (members : List (String × Value))
deriving Repr

/-- Puts a member in its place by key, instead of an earlier one with the same key. -/
def insert (key : String) (value : Value) : List (String × Value) → List (String × Value)
  | [] => [(key, value)]
  | (other, held) :: rest =>
    if key < other then (key, value) :: (other, held) :: rest
    else if key = other then (key, value) :: rest
    else (other, held) :: insert key value rest

def lookup? (key : String) : List (String × Value) → Option Value
  | [] => none
  | (other, value) :: rest => if key = other then some value else lookup? key rest

/-- Members in normal form, the last of several with one key. -/
def sortMembers (members : List (String × Value)) : List (String × Value) :=
  members.foldl (fun sorted member => insert member.1 member.2 sorted) []

mutual
/-- The value with every object inside it in normal form. -/
def Value.normal : Value → Value
  | .null => .null
  | .bool value => .bool value
  | .number value => .number value
  | .string value => .string value
  | .array items => .array (normalItems items)
  | .object members => .object (sortMembers (normalMembers members))

def normalItems : List Value → List Value
  | [] => []
  | item :: rest => item.normal :: normalItems rest

def normalMembers : List (String × Value) → List (String × Value)
  | [] => []
  | (key, value) :: rest => (key, value.normal) :: normalMembers rest
end

def Value.ofMembers (members : List (String × Value)) : Value := .object (sortMembers members)

def Value.field? (value : Value) (key : String) : Option Value :=
  match value with
  | .object members => lookup? key members
  | _ => none

/-- Bytes as the text that they encode, or in hexadecimal where they encode none. -/
def Value.ofBytes (bytes : Bytes) : Value :=
  match Utf8.toString? bytes with
  | some text => .string text
  | none => .object [("hex", .string (String.ofList (Hex.encode bytes)))]

def Value.nat (value : Nat) : Value := .number (.integer value)

def Value.ofOption (encode : α → Value) : Option α → Value
  | some value => encode value
  | none => .null

def Value.int (value : Int) : Value := .number (.integer value)

end HookRelay.Json
