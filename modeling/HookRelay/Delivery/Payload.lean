import HookRelay.Delivery.Record
import HookRelay.Subscription.Basic

namespace HookRelay

open Json

def deliveryMembers (subscription : Subscription) (record : DeliveryRecord) (now : Instant) :
    List (String × Value) :=
  [("subscription_id", .string subscription.id.text),
    ("subscription_name", .string subscription.name),
    ("event", .string record.eventType),
    ("delivery_id", .string record.id.text),
    ("timestamp", .string now.offsetText)]

/-- The members of a payload; one that is no object is the member `data`. -/
def payloadMembers : Value → List (String × Value)
  | .object members => members
  | payload => [("data", payload)]

/-- The delivery's own members take the place of those of the payload with the same keys. -/
def enrich (subscription : Subscription) (record : DeliveryRecord) (now : Instant) : Value :=
  .object <|
    (deliveryMembers subscription record now).foldl
      (fun members member => insert member.1 member.2 members) (payloadMembers record.payload)

end HookRelay
