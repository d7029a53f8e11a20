import HookRelay.Json.Record
import HookRelay.Time.Calendar

namespace HookRelay

/-- Which delivery an announcement is about, and where it was sent. -/
structure Subject where
  deliveryId : Uuid
  subscriptionId : Uuid
  eventType : String
  url : String
deriving DecidableEq, Repr

structure DeliverySucceeded where
  subject : Subject
  responseStatus : Nat
  attemptNumber : Nat
  deliveredAt : Reading
deriving DecidableEq, Repr

structure DeliveryFailed where
  subject : Subject
  responseStatus : Option Nat
  attemptNumber : Nat
  retryInSeconds : Nat
  failedAt : Reading
  errorMessage : String
deriving DecidableEq, Repr

structure DeliveryExhausted where
  subject : Subject
  responseStatus : Option Nat
  attempts : Nat
  exhaustedAt : Reading
  errorMessage : String
deriving DecidableEq, Repr

inductive DeliveryEvent where
  | succeeded (event : DeliverySucceeded)
  | failed (event : DeliveryFailed)
  | exhausted (event : DeliveryExhausted)
deriving DecidableEq, Repr

namespace DeliveryEvent

open Json

def subject : DeliveryEvent → Subject
  | succeeded event => event.subject
  | failed event => event.subject
  | exhausted event => event.subject

def isSucceeded : DeliveryEvent → Bool
  | succeeded _ => true
  | _ => false

def isFailed : DeliveryEvent → Bool
  | failed _ => true
  | _ => false

def isExhausted : DeliveryEvent → Bool
  | exhausted _ => true
  | _ => false

private def subjectMembers (subject : Subject) : List (String × Value) :=
  [("delivery_id", .string subject.deliveryId.text),
    ("subscription_id", .string subject.subscriptionId.text),
    ("event_type", .string subject.eventType), ("url", .string subject.url)]

private def time (reading : Reading) : Value := .string (reading.text "Z")

def toJson : DeliveryEvent → Value
  | succeeded event => .object [("Succeeded", .object (subjectMembers event.subject ++
      [("response_status", .nat event.responseStatus), ("attempt_number", .nat event.attemptNumber),
        ("delivered_at", time event.deliveredAt)]))]
  | failed event => .object [("Failed", .object (subjectMembers event.subject ++
      [("response_status", .ofOption .nat event.responseStatus),
        ("attempt_number", .nat event.attemptNumber),
        ("retry_in_seconds", .nat event.retryInSeconds), ("failed_at", time event.failedAt),
        ("error_message", .string event.errorMessage)]))]
  | exhausted event => .object [("Exhausted", .object (subjectMembers event.subject ++
      [("response_status", .ofOption .nat event.responseStatus), ("attempts", .nat event.attempts),
        ("exhausted_at", time event.exhaustedAt), ("error_message", .string event.errorMessage)]))]

private def subjectNames : List String := ["delivery_id", "subscription_id", "event_type", "url"]

private def readSubject? (delivery subscription eventType url : Option Value) : Option Subject := do
  pure ⟨← (← delivery).uuid?, ← (← subscription).uuid?, ← (← eventType).string?, ← (← url).string?⟩

private def readTime? (value : Option Value) : Option Reading := do
  Reading.read? (← (← value).string?).toList

private def readStatus? : Option Value → Option (Option Nat)
  | none => some none
  | some .null => some none
  | some value => (value.unsigned? 16).map some

private def readSucceeded? (text : Bytes) : Option DeliveryEvent := do
  match ← Record.fields? (subjectNames ++
      ["response_status", "attempt_number", "delivered_at"]) text with
  | [delivery, subscription, eventType, url, status, attempt, time] =>
    pure (.succeeded {
      subject := ← readSubject? delivery subscription eventType url
      responseStatus := ← (← status).unsigned? 16
      attemptNumber := ← (← attempt).unsigned? 32
      deliveredAt := ← readTime? time })
  | _ => none

private def readFailed? (text : Bytes) : Option DeliveryEvent := do
  match ← Record.fields? (subjectNames ++ ["response_status", "attempt_number", "retry_in_seconds",
      "failed_at", "error_message"]) text with
  | [delivery, subscription, eventType, url, status, attempt, retry, time, message] =>
    pure (.failed {
      subject := ← readSubject? delivery subscription eventType url
      responseStatus := ← readStatus? status
      attemptNumber := ← (← attempt).unsigned? 32
      retryInSeconds := ← (← retry).unsigned? 64
      failedAt := ← readTime? time
      errorMessage := ← (← message).string? })
  | _ => none

private def readExhausted? (text : Bytes) : Option DeliveryEvent := do
  match ← Record.fields? (subjectNames ++ ["response_status", "attempts", "exhausted_at",
      "error_message"]) text with
  | [delivery, subscription, eventType, url, status, attempts, time, message] =>
    pure (.exhausted {
      subject := ← readSubject? delivery subscription eventType url
      responseStatus := ← readStatus? status
      attempts := ← (← attempts).unsigned? 32
      exhaustedAt := ← readTime? time
      errorMessage := ← (← message).string? })
  | _ => none

/-- Reads JSON text: one member, named for the kind. Members of it that have other names are passed
over. -/
def read? (text : Bytes) : Option DeliveryEvent :=
  match Record.read? text with
  | some (.members [(kind, text)]) =>
    if kind = "Succeeded" then readSucceeded? text
    else if kind = "Failed" then readFailed? text
    else if kind = "Exhausted" then readExhausted? text
    else none
  | _ => none

end DeliveryEvent

end HookRelay
