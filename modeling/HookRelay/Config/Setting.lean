import HookRelay.Config.Basic

namespace HookRelay

inductive Setting where
  | nothing
  | text (value : String)
  | boolean (value : Bool)
  | integer (value : Int)
  | float (value : Binary64)
  | list (items : List Setting)
  | table (entries : List (String × Setting))
deriving Inhabited

/-- Why a value cannot stand for a field: it is of another kind, or out of the field's range. -/
inductive SettingFault where
  | invalidType
  | invalidValue
deriving DecidableEq, Repr

mutual
def Setting.ofJson : Json.Value → Setting
  | .null => .nothing
  | .bool value => .boolean value
  | .number (.integer value) => .integer value
  | .number (.float value) => .float value
  | .string value => .text value
  | .array items => .list (settingsOfItems items)
  | .object members => .table (settingsOfMembers members)

def settingsOfItems : List Json.Value → List Setting
  | [] => []
  | item :: rest => .ofJson item :: settingsOfItems rest

def settingsOfMembers : List (String × Json.Value) → List (String × Setting)
  | [] => []
  | (name, value) :: rest => (name, .ofJson value) :: settingsOfMembers rest
end

namespace Setting

def asText : Setting → Except SettingFault String
  | text value => .ok value
  | _ => .error .invalidType

/-- An integer of at most `bits` bits and no sign. -/
def asUnsigned (bits : Nat) : Setting → Except SettingFault Nat
  | integer value =>
    if 0 ≤ value && value < Nat.pow 2 bits then .ok value.toNat else .error .invalidValue
  | _ => .error .invalidType

/-- A float, or an integer rounded to one. -/
def asFloat : Setting → Except SettingFault Binary64
  | integer value => .ok (Binary64.ofInt value)
  | float value => .ok value
  | _ => .error .invalidType

end Setting

namespace Configuration

abbrev Replacement := Configuration → Setting → Except SettingFault Configuration

private def replaceText (update : Configuration → String → Configuration) : Replacement :=
  fun config setting => setting.asText.map (update config)

private def replaceUnsigned (bits : Nat) (update : Configuration → Nat → Configuration) :
    Replacement :=
  fun config setting => (setting.asUnsigned bits).map (update config)

private def replaceFloat (update : Configuration → Binary64 → Configuration) : Replacement :=
  fun config setting => setting.asFloat.map (update config)

/-- The fields in the order of their names, which is the order in which they are read. -/
def fields : List (String × Replacement) :=
  [("database_max_connections",
      replaceUnsigned 32 fun config value => { config with databaseMaxConnections := value }),
    ("database_url", replaceText fun config value => { config with databaseUrl := value }),
    ("default_delivery_timeout_seconds",
      replaceUnsigned 64 fun config value =>
        { config with defaultDeliveryTimeoutSeconds := value }),
    ("host", replaceText fun config value => { config with host := value }),
    ("port", replaceUnsigned 16 fun config value => { config with port := value }),
    ("replay_tolerance_seconds",
      replaceUnsigned 64 fun config value => { config with replayToleranceSeconds := value }),
    ("request_timeout_seconds",
      replaceUnsigned 64 fun config value => { config with requestTimeoutSeconds := value }),
    ("retry_initial_delay_seconds",
      replaceUnsigned 64 fun config value => { config with retryInitialDelaySeconds := value }),
    ("retry_jitter_factor",
      replaceFloat fun config value => { config with retryJitterFactor := value }),
    ("retry_max_delay_seconds",
      replaceUnsigned 64 fun config value => { config with retryMaxDelaySeconds := value }),
    ("retry_multiplier", replaceFloat fun config value => { config with retryMultiplier := value }),
    ("rotation_sweep_interval_seconds",
      replaceUnsigned 64 fun config value => { config with rotationSweepIntervalSeconds := value }),
    ("rust_log", replaceText fun config value => { config with logFilter := value }),
    ("shutdown_timeout_seconds",
      replaceUnsigned 64 fun config value => { config with shutdownTimeoutSeconds := value }),
    ("worker_batch_size",
      replaceUnsigned 64 fun config value => { config with workerBatchSize := value }),
    ("worker_lease_seconds",
      replaceUnsigned 64 fun config value => { config with workerLeaseSeconds := value }),
    ("worker_poll_interval_ms",
      replaceUnsigned 64 fun config value => { config with workerPollIntervalMs := value }),
    ("worker_pool_size",
      replaceUnsigned 64 fun config value => { config with workerPoolSize := value })]

abbrev FieldFault := String × SettingFault

/-- Replaces the fields that have an entry; entries without a field are passed over. -/
def override (config : Configuration) (entries : List (String × Setting)) :
    Except FieldFault Configuration :=
  fields.foldlM
    (fun config (name, replace) =>
      match entries.lookup name with
      | none => .ok config
      | some setting => (replace config setting).mapError fun fault => (name, fault))
    config

end Configuration

end HookRelay
