import HookRelay.Signature.Basic
import HookRelay.Signature.Freshness
import HookRelay.Subscription.Rotation

namespace HookRelay.Inbound

def isFresh (tolerance : Duration) (now : Instant) (timestampHeader : Option (List Char)) : Bool :=
  match timestampHeader with
  | some header => Freshness.isFreshHeader header tolerance now
  | none => false

/-- Whether a request is to be trusted; an error only for a subscription whose secrets are in
disorder, and only once a fresh timestamp and a signature are there. -/
def validate (tolerance : Duration) (now : Instant) (payload : Json.Value)
    (signatureHeader timestampHeader : Option (List Char)) (subscription : Subscription) :
    Except RotationError Bool :=
  if isFresh tolerance now timestampHeader then
    match signatureHeader with
    | none => .ok false
    | some signature =>
      (subscription.activeSecrets now).map fun secrets =>
        secrets.any fun secret => Signature.verifyBytes (Json.canonical payload) signature secret
  else .ok false

end HookRelay.Inbound
