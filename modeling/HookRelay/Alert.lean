import HookRelay.Delivery.Event

namespace HookRelay

inductive AlertLevel where
  | debug
  | error
deriving DecidableEq, Repr

def AlertLevel.text : AlertLevel → String
  | debug => "DEBUG"
  | error => "ERROR"

structure Alert where
  level : AlertLevel
  fields : List (String × String)
deriving DecidableEq, Repr

namespace Alert

/-- A status code that may be missing, as diagnostics show it. -/
def optionalCode : Option Nat → String
  | some code => s!"Some({code})"
  | none => "None"

def ofEvent : DeliveryEvent → Alert
  | .exhausted event =>
    ⟨.error, [("delivery_id", event.subject.deliveryId.text),
      ("subscription_id", event.subject.subscriptionId.text),
      ("event_type", event.subject.eventType), ("url", event.subject.url),
      ("attempts", toString event.attempts),
      ("response_status", optionalCode event.responseStatus), ("error", event.errorMessage),
      ("message", "webhook delivery exhausted, operator attention required")]⟩
  | .failed event =>
    ⟨.debug, [("delivery_id", event.subject.deliveryId.text),
      ("attempt", toString event.attemptNumber),
      ("retry_in_seconds", toString event.retryInSeconds),
      ("message", "webhook delivery failed, retry scheduled")]⟩
  | .succeeded event =>
    ⟨.debug, [("delivery_id", event.subject.deliveryId.text),
      ("attempt", toString event.attemptNumber), ("status_code", toString event.responseStatus),
      ("message", "webhook delivered")]⟩

end Alert

end HookRelay
