import HookRelay.Delivery.Record
import HookRelay.Subscription.Basic

namespace HookRelay

inductive StoreError where
  | database (reason : String)
  | notFound (what : String)
  | constraintViolation (reason : String)
  | invalidInput (reason : String)
  | invalidTransition (transition : InvalidTransition)
deriving DecidableEq, Repr

namespace StoreError

def kind : StoreError → String
  | database _ => "Database"
  | notFound _ => "NotFound"
  | constraintViolation _ => "ConstraintViolation"
  | invalidInput _ => "InvalidInput"
  | invalidTransition _ => "InvalidTransition"

/-- The error of a named cause that is told in words alone. -/
def ofReason? (kind reason : String) : Option StoreError :=
  [database reason, notFound reason, constraintViolation reason, invalidInput reason].find?
    fun error => error.kind = kind

def message : StoreError → String
  | database reason => "Database error: " ++ reason
  | notFound what => "Not found: " ++ what
  | constraintViolation reason => "Constraint violation: " ++ reason
  | invalidInput reason => "Invalid input: " ++ reason
  | invalidTransition transition =>
    "Invalid delivery transition: " ++ transition.source.text ++ " -> " ++ transition.target.text

end StoreError

inductive SignatureError where
  | emptySecret
  | encoding (reason : String)
  | invalidKey
deriving DecidableEq, Repr

namespace SignatureError

def kind : SignatureError → String
  | emptySecret => "EmptySecret"
  | encoding _ => "Encoding"
  | invalidKey => "InvalidKey"

def message : SignatureError → String
  | emptySecret => "signing secret is empty"
  | encoding reason => "failed to encode canonical payload: " ++ reason
  | invalidKey => "invalid signing key"

end SignatureError

inductive DeliveryError where
  | network (reason : String)
  | timeout (seconds : Nat)
  | receiver (code : Nat) (body : String)
  | interrupted (attempt : Nat)
  | subscriptionNotFound (id : Uuid)
  | deliveryNotFound (id : Uuid)
  | notSubscribed (id : Uuid) (eventType : String)
  | subscriptionInactive (id : Uuid) (status : SubscriptionStatus)
  | storage (reason : String)
  | queue (reason : String)
  | configuration (reason : String)
  | signing (reason : String)
  | workerPanic (worker : Nat) (reason : String)
  | shutdownTimeout (limit : Duration)
  | internal (reason : String)
deriving DecidableEq, Repr

namespace DeliveryError

def kind : DeliveryError → String
  | network _ => "Network"
  | timeout _ => "Timeout"
  | receiver .. => "ReceiverError"
  | interrupted _ => "Interrupted"
  | subscriptionNotFound _ => "SubscriptionNotFound"
  | deliveryNotFound _ => "DeliveryNotFound"
  | notSubscribed .. => "NotSubscribed"
  | subscriptionInactive .. => "SubscriptionInactive"
  | storage _ => "Storage"
  | queue _ => "Queue"
  | configuration _ => "Configuration"
  | signing _ => "Signing"
  | workerPanic .. => "WorkerPanic"
  | shutdownTimeout _ => "ShutdownTimeout"
  | internal _ => "Internal"

def ofReason? (kind reason : String) : Option DeliveryError :=
  [network reason, storage reason, queue reason, configuration reason, signing reason,
    internal reason].find? fun error => error.kind = kind

def message : DeliveryError → String
  | network reason => "network connection failed: " ++ reason
  | timeout seconds => s!"request timeout after {seconds}s"
  | receiver code _ => s!"receiver responded with HTTP {code}"
  | interrupted attempt => s!"attempt {attempt} was interrupted before its outcome was recorded"
  | subscriptionNotFound id => "subscription " ++ id.text ++ " not found"
  | deliveryNotFound id => "delivery " ++ id.text ++ " not found"
  | notSubscribed id eventType =>
    "subscription " ++ id.text ++ " is not subscribed to " ++ eventType
  | subscriptionInactive id status => "subscription " ++ id.text ++ " is " ++ status.text
  | storage reason => "storage error: " ++ reason
  | queue reason => "task queue error: " ++ reason
  | configuration reason => "invalid delivery configuration: " ++ reason
  | signing reason => "signing failed: " ++ reason
  | workerPanic worker reason => s!"worker {worker} panicked: " ++ reason
  | shutdownTimeout limit => "graceful shutdown timed out after " ++ limit.text
  | internal reason => "internal delivery error: " ++ reason

def isRetryable : DeliveryError → Bool
  | network _ => true
  | timeout _ => true
  | receiver .. => true
  | interrupted _ => true
  | _ => false

def statusCode? : DeliveryError → Option Nat
  | receiver code _ => some code
  | _ => none

inductive Category where
  | network
  | receiver
  | subscription
  | storage
  | configuration
  | internal
deriving DecidableEq, Repr

def Category.text : Category → String
  | .network => "network"
  | .receiver => "receiver"
  | .subscription => "subscription"
  | .storage => "storage"
  | .configuration => "configuration"
  | .internal => "internal"

def category : DeliveryError → Category
  | network _ => .network
  | timeout _ => .network
  | receiver .. => .receiver
  | subscriptionNotFound _ => .subscription
  | deliveryNotFound _ => .subscription
  | notSubscribed .. => .subscription
  | subscriptionInactive .. => .subscription
  | storage _ => .storage
  | queue _ => .storage
  | configuration _ => .configuration
  | interrupted _ => .internal
  | signing _ => .internal
  | workerPanic .. => .internal
  | shutdownTimeout _ => .internal
  | internal _ => .internal

def ofStore (error : StoreError) : DeliveryError := .storage error.message

def ofSignature (error : SignatureError) : DeliveryError := .signing error.message

end DeliveryError

end HookRelay
