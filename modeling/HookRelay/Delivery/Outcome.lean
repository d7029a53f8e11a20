import HookRelay.Delivery.Error

namespace HookRelay

inductive SkipReason where
  | subscriptionInactive (status : SubscriptionStatus)
  | notEligible (status : DeliveryStatus)
deriving DecidableEq, Repr

def SkipReason.text : SkipReason → String
  | subscriptionInactive status => "subscription is " ++ status.text
  | notEligible status => "delivery is " ++ status.text ++ " and cannot be attempted"

def SkipReason.kind : SkipReason → String
  | subscriptionInactive _ => "SubscriptionInactive"
  | notEligible _ => "NotEligible"

inductive Outcome where
  | skipped (reason : SkipReason)
  | delivered (code : Nat)
  | retryScheduled (attempt : Nat) (delay : Duration)
  | exhausted (attempts : Nat)
deriving DecidableEq, Repr

end HookRelay
