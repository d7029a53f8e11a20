import HookRelay.Delivery.Payload
import HookRelay.Effect
import HookRelay.Retry
import HookRelay.Signature.Basic

/-!
The life of a delivery: it is enqueued, attempted when its turn comes, and retried until a
receiver accepts it or its attempts run out. An attempt is saved before its request is sent, so
that one found in flight later can be told to have been interrupted.
-/
namespace HookRelay.Dispatch

open HookRelay.Action

/-- Creates a delivery of a payload and puts its first attempt in the queue. -/
def enqueue (subscription : Subscription) (eventType : String) (payload : Json.Value) :
    Action Uuid :=
  if !subscription.subscribesTo eventType then throw (.notSubscribed subscription.id eventType)
  else if !subscription.isActive then
    throw (.subscriptionInactive subscription.id subscription.status)
  else do
    let now ← perform .now
    let id ← perform .newDeliveryId
    store (.createDelivery (.pending id subscription.id eventType payload now))
    queue (.enqueue (.now id))
    pure id

/-- Enqueues a payload for each of the subscriptions, passing over those where that fails. -/
def enqueueEach (eventType : String) (payload : Json.Value) :
    List Subscription → Program Relay (List Uuid)
  | [] => pure []
  | subscription :: rest => do
    let first ← (enqueue subscription eventType payload).result
    let others ← enqueueEach eventType payload rest
    pure (first.toOption.toList ++ others)

def broadcast (eventType : String) (payload : Json.Value) : Action (List Uuid) := do
  let subscriptions ← store (.subscriptionsForEvent eventType)
  ExceptT.lift (enqueueEach eventType payload subscriptions)

def transition (result : Except InvalidTransition DeliveryRecord) : Action DeliveryRecord :=
  ofExcept (result.mapError fun error => .ofStore (.invalidTransition error))

/-- Counts a result; nothing comes of it when that fails. -/
def count (subscription : Subscription) (counter : Counter) (now : Instant) : Action Unit := do
  let _ ← perform (.store (.increment subscription.id counter now))

/-- What the schedule says after a failed attempt, of `attempts` made. -/
def decide (policy : RetryPolicy) (attempts maxAttempts : Nat) : Action RetryPolicy.Decision := do
  let draw ← perform .drawJitter
  match policy.decide? attempts maxAttempts draw with
  | some decision => pure decision
  | none => halt

def subject (subscription : Subscription) (record : DeliveryRecord) : Subject where
  deliveryId := record.id
  subscriptionId := subscription.id
  eventType := record.eventType
  url := subscription.url

/-- What a record keeps of a failure: the receiver's own words where there are any. -/
def failureText : DeliveryError → String
  | .receiver _ body => body
  | failure => failure.message

/-- Records that the attempt in flight failed, and has it retried or reports the delivery lost. -/
def settleFailure (policy : RetryPolicy) (subscription : Subscription) (record : DeliveryRecord)
    (failure : DeliveryError) : Action Outcome := do
  let now ← perform .now
  let text := failureText failure
  let failed ← transition (record.fail failure.statusCode? text now)
  store (.saveDelivery failed)
  count subscription .failure now
  match ← decide policy failed.attempts subscription.maxAttempts with
  | .retry delay =>
    queue (.enqueue ⟨failed.id, delay⟩)
    perform (.publish (.failed {
      subject := subject subscription failed
      responseStatus := failure.statusCode?
      attemptNumber := record.attempts
      retryInSeconds := delay.seconds
      failedAt := .ofInstant now
      errorMessage := text }))
    pure (.retryScheduled record.attempts delay)
  | .exhausted =>
    perform (.publish (.exhausted {
      subject := subject subscription failed
      responseStatus := failure.statusCode?
      attempts := failed.attempts
      exhaustedAt := .ofInstant now
      errorMessage := text }))
    pure (.exhausted failed.attempts)

def settleSuccess (subscription : Subscription) (record : DeliveryRecord)
    (response : DeliveryResponse) (now : Instant) : Action Outcome := do
  let succeeded ← transition (record.succeed response.code response.body now)
  store (.saveDelivery succeeded)
  count subscription .success now
  perform (.publish (.succeeded {
    subject := subject subscription succeeded
    responseStatus := response.code
    attemptNumber := record.attempts
    deliveredAt := .ofInstant now }))
  pure (.delivered response.code)

def request (subscription : Subscription) (record : DeliveryRecord) (body : Bytes)
    (signature : String) (now : Instant) : DeliveryRequest where
  deliveryId := record.id
  subscriptionId := subscription.id
  url := subscription.url
  body := body
  signature := signature
  timestamp := now.seconds
  timeout := subscription.timeout
  attempt := record.attempts

/-- Makes one attempt, if the subscription is active and has attempts left for the delivery. -/
def attempt (policy : RetryPolicy) (subscription : Subscription) (record : DeliveryRecord) :
    Action Outcome :=
  if !subscription.isActive then pure (.skipped (.subscriptionInactive subscription.status))
  else if !record.canAttempt subscription.maxAttempts then
    pure (.skipped (.notEligible record.status))
  else do
    let now ← perform .now
    let body := Json.canonical (enrich subscription record now)
    let signature ← ofExcept ((Signature.signBytes body subscription.secret).mapError .ofSignature)
    let begun ← transition (record.beginAttempt subscription.maxAttempts)
    store (.saveDelivery begun)
    let result ← perform (.send (request subscription begun body signature now))
    let completed ← perform .now
    match result with
    | .error failure => settleFailure policy subscription begun failure
    | .ok response =>
      if response.isSuccess then settleSuccess subscription begun response completed
      else settleFailure policy subscription begun (.receiver response.code response.body)

/-- Works on a delivery whose turn has come. One found in flight was interrupted, which counts as a
failed attempt. -/
def process (policy : RetryPolicy) (deliveryId : Uuid) : Action Outcome := do
  match ← store (.findDelivery deliveryId) with
  | none => throw (.deliveryNotFound deliveryId)
  | some record =>
    match ← store (.findSubscription record.subscriptionId) with
    | none => throw (.subscriptionNotFound record.subscriptionId)
    | some subscription =>
      if record.status = .processing then
        settleFailure policy subscription record (.interrupted record.attempts)
      else attempt policy subscription record

end HookRelay.Dispatch
