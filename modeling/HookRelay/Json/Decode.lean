import HookRelay.Json.Reader
import HookRelay.Duration
import HookRelay.Uuid

/-!
Reading values of the domain from a tree of JSON text. The fields of a record stand by name in an
object, or by position in an array.
-/
namespace HookRelay.Json

def Value.string? : Value → Option String
  | .string text => some text
  | _ => none

def Value.integer? : Value → Option Int
  | .number (.integer value) => some value
  | _ => none

def Value.bool? : Value → Option Bool
  | .bool value => some value
  | _ => none

def Value.items? : Value → Option (List Value)
  | .array items => some items
  | _ => none

def Value.members? : Value → Option (List (String × Value))
  | .object members => some members
  | _ => none

def Value.list? (decode : Value → Option α) (value : Value) : Option (List α) :=
  value.items?.bind (·.mapM decode)

def Value.present? (value : Value) (key : String) : Option Value :=
  match value.field? key with
  | some .null => none
  | found => found

def Value.get (value : Value) (key : String) (decode : Value → Option α) : Option α :=
  (value.present? key).bind decode

def Value.getD (value : Value) (key : String) (decode : Value → Option α) (fallback : α) :
    Option α :=
  match value.present? key with
  | some member => decode member
  | none => some fallback

def Value.getOpt (value : Value) (key : String) (decode : Value → Option α) : Option (Option α) :=
  value.getD key (fun member => (decode member).map some) none

/-- An integer of at most `bits` bits and no sign. -/
def Value.unsigned? (bits : Nat) : Value → Option Nat
  | .number (.integer value) =>
    if 0 ≤ value && value < Nat.pow 2 bits then some value.toNat else none
  | _ => none

def Value.float? : Value → Option Binary64
  | .number (.integer value) => some (Binary64.ofInt value)
  | .number (.float value) => some value
  | _ => none

def Value.uuid? (value : Value) : Option Uuid :=
  value.string?.bind fun text => Uuid.read? text.toList

/-- The values under each of the names: each stands once in an object, with no others, and an array
has exactly one item for each. -/
def fieldsOnly? (names : List String) : Value → Option (List Value)
  | .object members =>
    if members.length ≠ names.length then none
    else names.mapM fun name => members.lookup name
  | .array items => if items.length = names.length then some items else none
  | _ => none

/-- A duration of whole seconds and nanoseconds, of which a thousand million make a second. -/
def Value.duration? (value : Value) : Option Duration :=
  match fieldsOnly? ["secs", "nanos"] value with
  | some [seconds, nanos] => do
    let seconds ← seconds.unsigned? 64
    let nanos ← nanos.unsigned? 32
    let duration := Duration.ofParts seconds nanos
    if duration.nanos < Duration.limit then some duration else none
  | _ => none

def ofDuration (duration : Duration) : Value :=
  .object [("secs", .nat duration.seconds), ("nanos", .nat duration.subsecond)]

end HookRelay.Json
