import HookRelay.Delivery.Error
import HookRelay.Subscription.Rotation

namespace HookRelay

inductive StoreCall where
  | findSubscription (id : Uuid)
  | saveSubscription (subscription : Subscription)
  | subscriptionsForEvent (eventType : String)
  | subscriptionsWithPreviousSecret
  | clearExpiredPrevious (id : Uuid) (now : Instant)
  | findDelivery (id : Uuid)
  | createDelivery (record : DeliveryRecord)
  | saveDelivery (record : DeliveryRecord)
  | increment (id : Uuid) (counter : Counter) (now : Instant)

namespace StoreCall

/-- What a call gives when it succeeds; clearing tells whether there was anything to clear. -/
def Reply : StoreCall → Type
  | findSubscription _ => Option Subscription
  | saveSubscription _ => Unit
  | subscriptionsForEvent _ => List Subscription
  | subscriptionsWithPreviousSecret => List Subscription
  | clearExpiredPrevious .. => Bool
  | findDelivery _ => Option DeliveryRecord
  | createDelivery _ => Unit
  | saveDelivery _ => Unit
  | increment .. => Unit

end StoreCall

inductive StoreOperation where
  | findSubscription
  | saveSubscription
  | subscriptionsForEvent
  | clearExpiredPrevious
  | findDelivery
  | createDelivery
  | saveDelivery
  | increment
deriving DecidableEq, Repr

namespace StoreOperation

def text : StoreOperation → String
  | findSubscription => "find_subscription"
  | saveSubscription => "save_subscription"
  | subscriptionsForEvent => "find_subscriptions_for_event"
  | clearExpiredPrevious => "clear_previous_secret"
  | findDelivery => "find_delivery"
  | createDelivery => "create_delivery"
  | saveDelivery => "save_delivery"
  | increment => "increment_counter"

def read? (text : String) : Option StoreOperation :=
  [findSubscription, saveSubscription, subscriptionsForEvent, clearExpiredPrevious, findDelivery,
    createDelivery, saveDelivery, increment].find? fun operation => operation.text = text

end StoreOperation

def StoreCall.operation? : StoreCall → Option StoreOperation
  | findSubscription _ => some .findSubscription
  | saveSubscription _ => some .saveSubscription
  | subscriptionsForEvent _ => some .subscriptionsForEvent
  | subscriptionsWithPreviousSecret => none
  | clearExpiredPrevious .. => some .clearExpiredPrevious
  | findDelivery _ => some .findDelivery
  | createDelivery _ => some .createDelivery
  | saveDelivery _ => some .saveDelivery
  | increment .. => some .increment

namespace Subscription

/-- What an owner's save leaves: everything as the owner has it, but the stored results. -/
def savedOver (subscription stored : Subscription) : Subscription :=
  { subscription with
    successCount := stored.successCount
    failureCount := stored.failureCount
    lastTriggeredAt := stored.lastTriggeredAt }

/-- Whether a store clears the previous secret at `now`, going by what it holds. -/
def previousHasExpired (stored : Subscription) (now : Instant) : Bool :=
  stored.previousSecret.isSome && stored.previousExpiresAt.any fun expires => expires < now

end Subscription

end HookRelay
