import HookRelay.Json.Value
import HookRelay.Time.Calendar
import HookRelay.Uuid

namespace HookRelay

inductive SubscriptionStatus where
  | active
  | paused
  | disabled
deriving DecidableEq, Repr

namespace SubscriptionStatus

def text : SubscriptionStatus → String
  | active => "active"
  | paused => "paused"
  | disabled => "disabled"

def read? (text : String) : Option SubscriptionStatus :=
  [active, paused, disabled].find? fun status => status.text = text

end SubscriptionStatus

/-- Key material; it may be any bytes, and signs nothing when it is empty. -/
structure Secret where
  bytes : Bytes
deriving DecidableEq, Repr

namespace Secret

def ofString (text : String) : Secret := ⟨Utf8.ofString text⟩

def isEmpty (secret : Secret) : Bool := secret.bytes.isEmpty

def redacted (_ : Secret) : String := "SigningSecret(***)"

end Secret

structure Subscription where
  id : Uuid
  name : String
  url : String
  secret : Secret
  previousSecret : Option Secret
  rotatedAt : Option Instant
  previousExpiresAt : Option Instant
  eventTypes : List String
  status : SubscriptionStatus
  timeoutSeconds : Nat
  maxAttempts : Nat
  successCount : Nat
  failureCount : Nat
  lastTriggeredAt : Option Instant
  createdAt : Instant
  updatedAt : Instant
deriving DecidableEq, Repr

namespace Subscription

def isActive (subscription : Subscription) : Bool := subscription.status = .active

/-- Event types are compared as they are written. -/
def subscribesTo (subscription : Subscription) (eventType : String) : Bool :=
  subscription.eventTypes.any (· = eventType)

def timeout (subscription : Subscription) : Duration :=
  Duration.ofSeconds subscription.timeoutSeconds

end Subscription

/-- The JSON form of a subscription, its secrets in the clear. -/
def Subscription.toJson (subscription : Subscription) : Json.Value :=
  let time (instant : Instant) : Json.Value := .string instant.text
  let secret (secret : Secret) : Json.Value := .ofBytes secret.bytes
  .ofMembers [("id", .string subscription.id.text), ("name", .string subscription.name),
    ("url", .string subscription.url), ("secret", secret subscription.secret),
    ("previous_secret", .ofOption secret subscription.previousSecret),
    ("secret_rotated_at", .ofOption time subscription.rotatedAt),
    ("previous_secret_expires_at", .ofOption time subscription.previousExpiresAt),
    ("event_types", .array (subscription.eventTypes.map .string)),
    ("status", .string subscription.status.text),
    ("timeout_seconds", .nat subscription.timeoutSeconds),
    ("max_retries", .nat subscription.maxAttempts),
    ("success_count", .nat subscription.successCount),
    ("failure_count", .nat subscription.failureCount),
    ("last_triggered_at", .ofOption time subscription.lastTriggeredAt),
    ("created_at", time subscription.createdAt), ("updated_at", time subscription.updatedAt)]

inductive Counter where
  | success
  | failure
deriving DecidableEq, Repr

namespace Counter

def column : Counter → String
  | success => "success_count"
  | failure => "failure_count"

/-- The greatest total: sixty-four bits hold it. -/
def greatest : Nat := 0xFFFFFFFFFFFFFFFF

end Counter

namespace Subscription

def total (subscription : Subscription) : Counter → Nat
  | .success => subscription.successCount
  | .failure => subscription.failureCount

/-- Counts one more result, noting when it came in; none where the total is the greatest already. -/
def count? (subscription : Subscription) (counter : Counter) (now : Instant) :
    Option Subscription :=
  let next := subscription.total counter + 1
  if Counter.greatest < next then none
  else match counter with
    | .success => some { subscription with successCount := next, lastTriggeredAt := some now }
    | .failure => some { subscription with failureCount := next, lastTriggeredAt := some now }

end Subscription

end HookRelay
