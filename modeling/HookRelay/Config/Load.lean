import HookRelay.Config.Environment

namespace HookRelay

inductive LoadError where
  | unreadableFile
  | field (name : String) (fault : SettingFault)
  | invalid (error : ConfigurationError)
deriving DecidableEq, Repr

namespace LoadError

def message : LoadError → String
  | unreadableFile => "failed to load configuration"
  | field .. => "failed to load configuration"
  | invalid error => error.message

def kind : LoadError → String
  | unreadableFile => "Message"
  | field _ .invalidType => "InvalidType"
  | field _ .invalidValue => "InvalidValue"
  | invalid _ => "Invalid"

/-- Where the cause lies: in a field, or in no field of its own. -/
def path : LoadError → List String
  | field name _ => [name]
  | _ => []

end LoadError

namespace Configuration

/-- The configuration from an optional TOML file and from environment variables, which go before it;
of several variables for one field the last counts. -/
def load (file : Option Bytes) (assignments : List (String × String)) :
    Except LoadError Configuration := do
  let fromFile ← match file with
    | none => .ok []
    | some bytes =>
      match Toml.read? bytes with
      | some entries => .ok entries
      | none => .error .unreadableFile
  let entries := (Environment.entries assignments).reverse ++ fromFile
  let config ← (standard.override entries).mapError fun (name, fault) => .field name fault
  match config.fault? with
  | some error => .error (.invalid error)
  | none => .ok config

end Configuration

end HookRelay
