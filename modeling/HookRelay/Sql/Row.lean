import HookRelay.Sql.Statement

namespace HookRelay.Sql

/-- An unsigned number for a column of signed thirty-two-bit integers. -/
def int32 (column : String) (value : Nat) : Except StoreError Value :=
  if value < 0x80000000 then .ok (.integer value)
  else .error (.invalidInput s!"{column} exceeds INTEGER range: {value}")

/-- An unsigned number for a column of signed sixty-four-bit integers. -/
def int64 (column : String) (value : Nat) : Except StoreError Value :=
  if value < 0x8000000000000000 then .ok (.integer value)
  else .error (.invalidInput s!"{column} exceeds BIGINT range: {value}")

def Value.optional (encode : α → Value) : Option α → Value
  | some value => encode value
  | none => .null

namespace Row

private def wrongKind (column : String) : Error :=
  .undecodableColumn column "mismatched types"

def getOptional (row : Row) (column : String) (decode : Value → Option α) :
    Except Error (Option α) :=
  match row.lookup column with
  | none => .error (.missingColumn column)
  | some .null => .ok none
  | some value =>
    match decode value with
    | some value => .ok (some value)
    | none => .error (wrongKind column)

def get (row : Row) (column : String) (decode : Value → Option α) : Except Error α := do
  match ← row.getOptional column decode with
  | some value => pure value
  | none => throw (.undecodableColumn column "unexpected null; try decoding as an `Option`")

def uuid? : Value → Option Uuid
  | .uuid id => some id
  | _ => none

def text? : Value → Option String
  | .text value => some value
  | _ => none

def integer? : Value → Option Int
  | .integer value => some value
  | _ => none

def timestamp? : Value → Option Instant
  | .timestamp instant => some instant
  | _ => none

def secret? : Value → Option Secret
  | .bytes bytes => some ⟨bytes⟩
  | _ => none

def json? : Value → Option Json.Value
  | .json value => some value
  | _ => none

def texts? : Value → Option (List String)
  | .texts values => some values
  | _ => none

/-- A count, which a row may hold as a negative number by mistake. -/
def getCount (row : Row) (column : String) : Except Error Nat := do
  let value ← row.get column integer?
  if value < 0 then throw (.undecodable (column ++ " cannot be negative")) else pure value.toNat

/-- A status, which a row may spell in an unknown way. -/
def getStatus (row : Row) (kind : String) (read? : String → Option α) : Except Error α := do
  let text ← row.get "status" text?
  match read? text with
  | some status => pure status
  | none => throw (.undecodableColumn "status" ("invalid " ++ kind ++ " status: " ++ text))

end Row

/-! Subscriptions. -/

def subscriptionColumns : List String :=
  ["id", "name", "url", "secret", "previous_secret", "secret_rotated_at",
    "previous_secret_expires_at", "event_types", "status", "timeout_seconds", "max_retries",
    "success_count", "failure_count", "last_triggered_at", "created_at", "updated_at"]

/-- The columns that an owner's save writes; results are left alone. -/
def savedColumns : List String :=
  ["name", "url", "secret", "previous_secret", "secret_rotated_at", "previous_secret_expires_at",
    "event_types", "status", "timeout_seconds", "max_retries", "updated_at"]

private def ownedValues (subscription : Subscription) : List Value :=
  [.text subscription.name, .text subscription.url, .bytes subscription.secret.bytes,
    .optional (fun secret => .bytes secret.bytes) subscription.previousSecret,
    .optional .timestamp subscription.rotatedAt,
    .optional .timestamp subscription.previousExpiresAt,
    .texts subscription.eventTypes, .text subscription.status.text]

def subscriptionValues (subscription : Subscription) : Except StoreError (List Value) := do
  let timeout ← int32 "timeout_seconds" subscription.timeoutSeconds
  let attempts ← int32 "max_retries" subscription.maxAttempts
  let successes ← int64 "success_count" subscription.successCount
  let failures ← int64 "failure_count" subscription.failureCount
  pure ([.uuid subscription.id] ++ ownedValues subscription ++
    [timeout, attempts, successes, failures, .optional .timestamp subscription.lastTriggeredAt,
      .timestamp subscription.createdAt, .timestamp subscription.updatedAt])

def savedValues (subscription : Subscription) : Except StoreError (List Value) := do
  let timeout ← int32 "timeout_seconds" subscription.timeoutSeconds
  let attempts ← int32 "max_retries" subscription.maxAttempts
  pure (ownedValues subscription ++ [timeout, attempts, .timestamp subscription.updatedAt])

def subscriptionOfRow (row : Row) : Except Error Subscription := do
  pure {
    id := ← row.get "id" Row.uuid?
    name := ← row.get "name" Row.text?
    url := ← row.get "url" Row.text?
    secret := ← row.get "secret" Row.secret?
    previousSecret := ← row.getOptional "previous_secret" Row.secret?
    rotatedAt := ← row.getOptional "secret_rotated_at" Row.timestamp?
    previousExpiresAt := ← row.getOptional "previous_secret_expires_at" Row.timestamp?
    eventTypes := ← row.get "event_types" Row.texts?
    status := ← row.getStatus "subscription" SubscriptionStatus.read?
    timeoutSeconds := ← row.getCount "timeout_seconds"
    maxAttempts := ← row.getCount "max_retries"
    successCount := ← row.getCount "success_count"
    failureCount := ← row.getCount "failure_count"
    lastTriggeredAt := ← row.getOptional "last_triggered_at" Row.timestamp?
    createdAt := ← row.get "created_at" Row.timestamp?
    updatedAt := ← row.get "updated_at" Row.timestamp? }

/-! Delivery records. -/

def deliveryColumns : List String :=
  ["id", "subscription_id", "event_type", "payload", "status", "attempts", "response_code",
    "response_body", "created_at", "completed_at"]

/-- The columns that a save writes; the payload never changes once it is stored. -/
def progressColumns : List String :=
  ["status", "attempts", "response_code", "response_body", "completed_at"]

private def code (value : Nat) : Value := .integer value

def deliveryValues (record : DeliveryRecord) : Except StoreError (List Value) := do
  let attempts ← int32 "attempts" record.attempts
  pure [.uuid record.id, .uuid record.subscriptionId, .text record.eventType, .json record.payload,
    .text record.status.text, attempts, .optional code record.responseCode,
    .optional .text record.responseBody, .timestamp record.createdAt,
    .optional .timestamp record.completedAt]

def progressValues (record : DeliveryRecord) : Except StoreError (List Value) := do
  let attempts ← int32 "attempts" record.attempts
  pure [.text record.status.text, attempts, .optional code record.responseCode,
    .optional .text record.responseBody, .optional .timestamp record.completedAt]

def recordOfRow (row : Row) : Except Error DeliveryRecord := do
  let payload ← row.get "payload" Row.json?
  let code ← row.getOptional "response_code" Row.integer?
  let id ← row.get "id" Row.uuid?
  let subscriptionId ← row.get "subscription_id" Row.uuid?
  let eventType ← row.get "event_type" Row.text?
  let status ← row.getStatus "delivery" DeliveryStatus.read?
  let attempts ← row.getCount "attempts"
  let responseCode ← match code with
    | none => pure none
    | some code =>
      if 0 ≤ code && code < 0x10000 then pure (some code.toNat)
      else throw (.undecodable "response_code out of range")
  pure {
    id := id
    subscriptionId := subscriptionId
    eventType := eventType
    payload := payload
    status := status
    attempts := attempts
    responseCode := responseCode
    responseBody := ← row.getOptional "response_body" Row.text?
    createdAt := ← row.get "created_at" Row.timestamp?
    completedAt := ← row.getOptional "completed_at" Row.timestamp? }

end HookRelay.Sql
