import HookRelay.Json.Decode
import HookRelay.Json.Skip

/-!
Records in JSON text: objects whose members are fields, or arrays with an item for each field. Only
the fields that are asked for are read; all else is passed over, as long as it has the form of JSON.
-/
namespace HookRelay.Json

/-- A container whose contents are left as they are written. -/
inductive Record where
  | members (members : List (String × Bytes))
  | items (items : List Bytes)

namespace Record

private def octets (bytes : Bytes) : List Char := bytes.map fun byte => Char.ofNat byte.toNat

private def bytesOf (octets : List Char) : Bytes := octets.map fun char => char.toNat.toUInt8

private def upTo (text rest : List Char) : Bytes :=
  bytesOf (text.take (text.length - rest.length))

private def takeValue? (text : List Char) : Option (Bytes × List Char) :=
  (skipValue? text).map fun rest => (upTo text rest, skipSpace rest)

private def takeKey? (text : List Char) : Option (String × List Char) := do
  let text := skipSpace text
  let afterKey ← skipString? (← Text.afterLiteral? ['"'] text)
  let key ← ((readTree? (upTo text afterKey)).bind Value.string?)
  pure (key, ← Text.afterLiteral? [':'] (skipSpace afterKey))

private def takeItems? (reversed : List Bytes) : Nat → List Char → Option (Record × List Char)
  | 0, _ => none
  | fuel + 1, text =>
    match takeValue? text with
    | some (item, ',' :: rest) => takeItems? (item :: reversed) fuel rest
    | some (item, ']' :: rest) => some (.items (item :: reversed).reverse, rest)
    | _ => none

private def takeMembers? (reversed : List (String × Bytes)) :
    Nat → List Char → Option (Record × List Char)
  | 0, _ => none
  | fuel + 1, text =>
    match takeKey? text with
    | none => none
    | some (key, rest) =>
      match takeValue? rest with
      | some (value, ',' :: rest) => takeMembers? ((key, value) :: reversed) fuel rest
      | some (value, '\x7d' :: rest) => some (.members ((key, value) :: reversed).reverse, rest)
      | _ => none

private def take? (text : List Char) : Option (Record × List Char) :=
  match skipSpace text with
  | '[' :: rest =>
    match skipSpace rest with
    | ']' :: rest => some (.items [], rest)
    | rest => takeItems? [] rest.length rest
  | '\x7b' :: rest =>
    match skipSpace rest with
    | '\x7d' :: rest => some (.members [], rest)
    | rest => takeMembers? [] rest.length rest
  | _ => none

/-- The record that a text is, blanks around it aside. -/
def read? (text : Bytes) : Option Record :=
  match take? (octets text) with
  | some (record, rest) => if (skipSpace rest).isEmpty then some record else none
  | none => none

/-- The texts under each of the names: none of them may stand twice among members, and items are
exactly one for each. -/
def written? (names : List String) : Record → Option (List (Option Bytes))
  | .members named =>
    names.mapM fun name =>
      match named.filter fun member => member.1 = name with
      | [] => some none
      | [(_, value)] => some (some value)
      | _ => none
  | .items listed => if listed.length = names.length then some (listed.map some) else none

def fields? (names : List String) (text : Bytes) : Option (List (Option Value)) := do
  (← (← read? text).written? names).mapM fun
    | none => some none
    | some written => (readTree? written).map some

end Record

end HookRelay.Json
