import HookRelay.Effect
import HookRelay.Http.Client
import HookRelay.Service.Response
import HookRelay.Signature.Inbound

/-!
Signed callbacks from receivers. The timestamp is looked at first, so that a stale request costs
neither a look into the store nor the reading of its body.
-/
namespace HookRelay.Callback

open Json

def unauthorized : ServiceResponse :=
  .failure 401 "invalid_signature" "signature or timestamp could not be verified"

def unknownSubscription (id : Uuid) : ServiceResponse :=
  .failure 404 "subscription_not_found" ("subscription " ++ id.text ++ " not found")

def storeFailed : ServiceResponse := .failure 500 "internal_error" "failed to load subscription"

/-- What the JSON parser says of a body that it refuses, where its words are passed on. -/
abbrev Parser := Bytes → Option String

def notJson (reason : Option String) : ServiceResponse :=
  .failure 400 "invalid_payload" ("body is not valid JSON" ++ reason.elim "" (": " ++ ·))

def malformedSecrets : ServiceResponse :=
  .failure 500 "internal_error" "subscription secret state is invalid"

def accepted (id : Uuid) : ServiceResponse :=
  .ofJson 202 (.ofMembers [("subscription_id", .string id.text), ("status", .string "accepted")])

def receive (tolerance : Duration) (id : Uuid) (request : ServiceRequest) (parser : Parser) :
    Program Relay ServiceResponse :=
  let timestamp := request.header? timestampHeader
  .step .now fun now =>
    if !Inbound.isFresh tolerance now timestamp then .done unauthorized
    else .step (.store (.findSubscription id)) fun
      | .error _ => .done storeFailed
      | .ok none => .done (unknownSubscription id)
      | .ok (some subscription) =>
        match Json.read? request.body with
        | none => .done (notJson (parser request.body))
        | some payload => .step .now fun now =>
          match Inbound.validate tolerance now payload (request.header? signatureHeader) timestamp
              subscription with
          | .ok true => .done (accepted id)
          | .ok false => .done unauthorized
          | .error _ => .done malformedSecrets

end HookRelay.Callback
