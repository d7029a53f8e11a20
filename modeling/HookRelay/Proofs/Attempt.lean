import HookRelay.Proofs.Site

/-!
What working on one delivery comes to, told by what is held about it when the work starts: the
stages it passes through, the effects it has at each of them, and how it may be concluded.
-/
namespace HookRelay

/-- How an answer fails an attempt, if it does. -/
def Sending.failure? (sending : Sending) : Option DeliveryError :=
  match sending.answer with
  | .error failure => some failure
  | .ok response =>
    if response.isSuccess then none else some (.receiver response.code response.body)

namespace Attempt

variable (conditions : Conditions) (policy : RetryPolicy) (id : Uuid) (start : Dossier)
  (since : Instant)

/-- An attempt begins: its record allows that, and its subscription is active. -/
structure Begins (record begun : DeliveryRecord) (subscription : Subscription) : Prop where
  stored : start.record = some record
  offered : conditions.offers record.id record.subscriptionId (some subscription)
  active : subscription.isActive = true
  begins : record.beginAttempt subscription.maxAttempts = .ok begun

/-- Its request is sent, with the attempt on record by then. -/
structure Sends (record begun : DeliveryRecord) (subscription : Subscription) (sending : Sending) :
    Prop extends Begins conditions start record begun subscription where
  request : ∃ signature prepared,
    let body := Json.canonical (enrich subscription record prepared)
    Signature.signBytes body subscription.secret = .ok signature ∧
      sending.request = Dispatch.request subscription begun body signature prepared
  recorded : sending.stored = some begun
  passed : conditions.passes since sending.time

/-- The answer accepts it, and it ends as a success. -/
structure Succeeds (record begun succeeded : DeliveryRecord) (subscription : Subscription)
    (sending : Sending) (response : DeliveryResponse) (now : Instant) : Prop extends
    Sends conditions start since record begun subscription sending where
  answered : sending.answer = .ok response
  accepted : response.isSuccess = true
  succeeds : begun.succeed response.code response.body now = .ok succeeded

/-- An attempt in flight fails: it was interrupted, or its answer does not accept. -/
inductive Fails : Dossier → DeliveryRecord → Subscription → DeliveryError → Prop where
  | interrupted {record : DeliveryRecord} {subscription : Subscription}
      (stored : start.record = some record)
      (offered : conditions.offers record.id record.subscriptionId (some subscription))
      (inFlight : record.status = .processing) :
      Fails start record subscription (.interrupted record.attempts)
  | answered {record begun : DeliveryRecord} {subscription : Subscription} {sending : Sending}
      {failure : DeliveryError}
      (sends : Sends conditions start since record begun subscription sending)
      (failed : sending.failure? = some failure) :
      Fails ((start.saved begun).sent sending) begun subscription failure

/-- It ends as a failure. -/
structure Ends (flight : Dossier) (record failed : DeliveryRecord) (subscription : Subscription)
    (failure : DeliveryError) (now : Instant) : Prop where
  fails : Fails conditions start since flight record subscription failure
  ends : record.fail failure.statusCode? (Dispatch.failureText failure) now = .ok failed

/-- The schedule has it retried. -/
structure Retries (flight : Dossier) (record failed : DeliveryRecord) (subscription : Subscription)
    (failure : DeliveryError) (now : Instant) (delay : Duration) : Prop extends
    Ends conditions start since flight record failed subscription failure now where
  decided : ∃ draw, policy.decide? failed.attempts subscription.maxAttempts draw =
    some (.retry delay)

/-- The retry is in the queue. -/
structure Retried (flight : Dossier) (record failed : DeliveryRecord) (subscription : Subscription)
    (failure : DeliveryError) (now : Instant) (delay : Duration) (due : Instant) : Prop extends
    Retries conditions policy start since flight record failed subscription failure now delay where
  reached : ∃ later, conditions.passes now later ∧ dueAt later delay = .ok due

def successEvent (subscription : Subscription) (begun succeeded : DeliveryRecord)
    (response : DeliveryResponse) (now : Instant) : DeliveryEvent :=
  .succeeded {
    subject := Dispatch.subject subscription succeeded
    responseStatus := response.code
    attemptNumber := begun.attempts
    deliveredAt := .ofInstant now }

def failureEvent (subscription : Subscription) (record failed : DeliveryRecord)
    (failure : DeliveryError) (delay : Duration) (now : Instant) : DeliveryEvent :=
  .failed {
    subject := Dispatch.subject subscription failed
    responseStatus := failure.statusCode?
    attemptNumber := record.attempts
    retryInSeconds := delay.seconds
    failedAt := .ofInstant now
    errorMessage := Dispatch.failureText failure }

def exhaustionEvent (subscription : Subscription) (failed : DeliveryRecord)
    (failure : DeliveryError) (now : Instant) : DeliveryEvent :=
  .exhausted {
    subject := Dispatch.subject subscription failed
    responseStatus := failure.statusCode?
    attempts := failed.attempts
    exhaustedAt := .ofInstant now
    errorMessage := Dispatch.failureText failure }

/-- The stages of the work, by what is held about the delivery at each. -/
inductive Stage : Dossier → Prop where
  | waiting : Stage start
  | begun {record begun : DeliveryRecord} {subscription : Subscription}
      (begins : Begins conditions start record begun subscription) : Stage (start.saved begun)
  | sent {record begun : DeliveryRecord} {subscription : Subscription} {sending : Sending}
      (sends : Sends conditions start since record begun subscription sending) :
      Stage ((start.saved begun).sent sending)
  | succeeded {record begun succeeded : DeliveryRecord} {subscription : Subscription}
      {sending : Sending} {response : DeliveryResponse} {now : Instant}
      (succeeds : Succeeds conditions start since record begun succeeded subscription sending
        response now) : Stage (((start.saved begun).sent sending).saved succeeded)
  | failed {flight : Dossier} {record failed : DeliveryRecord} {subscription : Subscription}
      {failure : DeliveryError} {now : Instant}
      (ends : Ends conditions start since flight record failed subscription failure now) :
      Stage (flight.saved failed)
  | retried {flight : Dossier} {record failed : DeliveryRecord} {subscription : Subscription}
      {failure : DeliveryError} {now due : Instant} {delay : Duration}
      (retried : Retried conditions policy start since flight record failed subscription failure
        now delay due) : Stage ((flight.saved failed).scheduled ⟨id, delay⟩ due)

/-- Where the work may be given up: before its outcome is on record, or when its retry cannot be
queued. -/
inductive GivesUp : Dossier → Prop where
  | waiting : GivesUp start
  | sent {record begun : DeliveryRecord} {subscription : Subscription} {sending : Sending}
      (sends : Sends conditions start since record begun subscription sending) :
      GivesUp ((start.saved begun).sent sending)
  | unqueued {flight : Dossier} {record failed : DeliveryRecord} {subscription : Subscription}
      {failure : DeliveryError} {now : Instant} {delay : Duration}
      (retries : Retries conditions policy start since flight record failed subscription failure
        now delay) : GivesUp (flight.saved failed)

/-- What the work does, and what is held about the delivery just before. -/
inductive Doing : Effect → Dossier → Prop where
  | quiet {effect : Effect} {dossier : Dossier}
      (stage : Stage conditions policy id start since dossier)
      (silent : ∀ id, ¬effect.Concerns id) : Doing effect dossier
  | begin {record begun : DeliveryRecord} {subscription : Subscription}
      (begins : Begins conditions start record begun subscription) :
      Doing (.store (.saveDelivery begun)) start
  | send {record begun : DeliveryRecord} {subscription : Subscription}
      (begins : Begins conditions start record begun subscription)
      (body : Bytes) (signature : String) (now : Instant) :
      Doing (.send (Dispatch.request subscription begun body signature now)) (start.saved begun)
  | succeed {record begun succeeded : DeliveryRecord} {subscription : Subscription}
      {sending : Sending} {response : DeliveryResponse} {now : Instant}
      (succeeds : Succeeds conditions start since record begun succeeded subscription sending
        response now) :
      Doing (.store (.saveDelivery succeeded)) ((start.saved begun).sent sending)
  | fail {flight : Dossier} {record failed : DeliveryRecord} {subscription : Subscription}
      {failure : DeliveryError} {now : Instant}
      (ends : Ends conditions start since flight record failed subscription failure now) :
      Doing (.store (.saveDelivery failed)) flight
  | retry {flight : Dossier} {record failed : DeliveryRecord} {subscription : Subscription}
      {failure : DeliveryError} {now : Instant} {delay : Duration}
      (retries : Retries conditions policy start since flight record failed subscription failure
        now delay) : Doing (.queue (.enqueue ⟨id, delay⟩)) (flight.saved failed)
  | announce {event : DeliveryEvent} {dossier : Dossier}
      (stage : Stage conditions policy id start since dossier)
      (named : event.subject.deliveryId = id) : Doing (.publish event) dossier

/-- How the work is concluded, and what is held about the delivery then. -/
inductive Concludes : Except DeliveryError Outcome → Dossier → Prop where
  | missing (absent : start.record = none) : Concludes (.error (.deliveryNotFound id)) start
  | unsubscribed {record : DeliveryRecord} (stored : start.record = some record)
      (unknown : conditions.offers record.id record.subscriptionId none) :
      Concludes (.error (.subscriptionNotFound record.subscriptionId)) start
  | faulted {error : DeliveryError} {dossier : Dossier}
      (givesUp : GivesUp conditions policy start since dossier)
      (fault : conditions.storeFails ∨ conditions.queueFails)
      (lasting : Worker.isDangling error = false) : Concludes (.error error) dossier
  | inactive {record : DeliveryRecord} {subscription : Subscription}
      (stored : start.record = some record)
      (offered : conditions.offers record.id record.subscriptionId (some subscription))
      (inactive : subscription.isActive = false) :
      Concludes (.ok (.skipped (.subscriptionInactive subscription.status))) start
  | ineligible {record : DeliveryRecord} {subscription : Subscription}
      (stored : start.record = some record)
      (offered : conditions.offers record.id record.subscriptionId (some subscription))
      (landed : record.status ≠ .processing)
      (unable : record.canAttempt subscription.maxAttempts = false) :
      Concludes (.ok (.skipped (.notEligible record.status))) start
  | unsigned {record : DeliveryRecord} {subscription : Subscription} {body : Bytes}
      {error : SignatureError}
      (stored : start.record = some record)
      (offered : conditions.offers record.id record.subscriptionId (some subscription))
      (refused : Signature.signBytes body subscription.secret = .error error) :
      Concludes (.error (.ofSignature error)) start
  | delivered {record begun succeeded : DeliveryRecord} {subscription : Subscription}
      {sending : Sending} {response : DeliveryResponse} {now : Instant}
      (succeeds : Succeeds conditions start since record begun succeeded subscription sending
        response now) :
      Concludes (.ok (.delivered response.code))
        ((((start.saved begun).sent sending).saved succeeded).announced
          (successEvent subscription begun succeeded response now))
  | retried {flight : Dossier} {record failed : DeliveryRecord} {subscription : Subscription}
      {failure : DeliveryError} {now due : Instant} {delay : Duration}
      (retried : Retried conditions policy start since flight record failed subscription failure
        now delay due) :
      Concludes (.ok (.retryScheduled record.attempts delay))
        (((flight.saved failed).scheduled ⟨id, delay⟩ due).announced
          (failureEvent subscription record failed failure delay now))
  | exhausted {flight : Dossier} {record failed : DeliveryRecord} {subscription : Subscription}
      {failure : DeliveryError} {now : Instant}
      (ends : Ends conditions start since flight record failed subscription failure now)
      (decided : ∃ draw, policy.decide? failed.attempts subscription.maxAttempts draw =
        some .exhausted) :
      Concludes (.ok (.exhausted failed.attempts))
        ((flight.saved failed).announced (exhaustionEvent subscription failed failure now))

variable {conditions policy id start since} {record begun failed succeeded : DeliveryRecord}
  {subscription : Subscription} {flight : Dossier} {failure : DeliveryError} {now : Instant}

theorem Begins.named (begins : Begins conditions start record begun subscription)
    (filed : start.Filed id) : begun.id = id := by
  obtain ⟨_, rfl⟩ := DeliveryRecord.beginAttempt_eq_ok begins.begins
  exact filed record begins.stored

theorem Begins.inFlight (begins : Begins conditions start record begun subscription) :
    begun.status = .processing := by
  obtain ⟨_, rfl⟩ := DeliveryRecord.beginAttempt_eq_ok begins.begins
  rfl

theorem Succeeds.named {sending : Sending} {response : DeliveryResponse}
    (succeeds : Succeeds conditions start since record begun succeeded subscription sending
      response now) (filed : start.Filed id) : succeeded.id = id := by
  obtain ⟨_, rfl⟩ := DeliveryRecord.succeed_eq_ok succeeds.succeeds
  exact succeeds.toBegins.named filed

theorem Fails.named (fails : Fails conditions start since flight record subscription failure)
    (filed : start.Filed id) : record.id = id := by
  cases fails with
  | interrupted stored offered inFlight => exact filed record stored
  | answered sends failed => exact sends.toBegins.named filed

theorem Fails.stage (fails : Fails conditions start since flight record subscription failure) :
    Stage conditions policy id start since flight := by
  cases fails with
  | interrupted stored offered inFlight => exact .waiting
  | answered sends failed => exact .sent sends

theorem Fails.givesUp (fails : Fails conditions start since flight record subscription failure) :
    GivesUp conditions policy start since flight := by
  cases fails with
  | interrupted stored offered inFlight => exact .waiting
  | answered sends failed => exact .sent sends

theorem Fails.inFlight (fails : Fails conditions start since flight record subscription failure) :
    record.status = .processing := by
  cases fails with
  | interrupted stored offered inFlight => exact inFlight
  | answered sends failed => exact sends.toBegins.inFlight

theorem Fails.stored (fails : Fails conditions start since flight record subscription failure) :
    flight.record = some record := by
  cases fails with
  | interrupted stored offered inFlight => exact stored
  | answered sends failed => rfl

theorem Fails.offered (fails : Fails conditions start since flight record subscription failure) :
    conditions.offers record.id record.subscriptionId (some subscription) := by
  cases fails with
  | interrupted stored offered inFlight => exact offered
  | answered sends failed =>
    have offered := sends.offered
    obtain ⟨_, rfl⟩ := DeliveryRecord.beginAttempt_eq_ok sends.begins
    exact offered

theorem Ends.named
    (ends : Ends conditions start since flight record failed subscription failure now)
    (filed : start.Filed id) : failed.id = id := by
  obtain ⟨_, rfl⟩ := DeliveryRecord.fail_eq_ok ends.ends
  exact ends.fails.named filed

theorem Stage.filed {dossier : Dossier} (stage : Stage conditions policy id start since dossier)
    (filed : start.Filed id) : dossier.Filed id := by
  intro held found
  cases stage with
  | waiting => exact filed held found
  | begun begins => exact Option.some.inj found ▸ begins.named filed
  | sent sends => exact Option.some.inj found ▸ sends.toBegins.named filed
  | succeeded succeeds => exact Option.some.inj found ▸ succeeds.named filed
  | failed ends => exact Option.some.inj found ▸ ends.named filed
  | retried retried => exact Option.some.inj found ▸ retried.toEnds.named filed

theorem GivesUp.stage {dossier : Dossier}
    (givesUp : GivesUp conditions policy start since dossier) (id : Uuid) :
    Stage conditions policy id start since dossier := by
  cases givesUp with
  | waiting => exact .waiting
  | sent sends => exact .sent sends
  | unqueued retries => exact .failed retries.toEnds

theorem Doing.stage {effect : Effect} {dossier : Dossier}
    (doing : Doing conditions policy id start since effect dossier) :
    Stage conditions policy id start since dossier := by
  cases doing with
  | quiet stage silent => exact stage
  | begin begins => exact .waiting
  | send begins => exact .begun begins
  | succeed succeeds => exact .sent succeeds.toSends
  | fail ends => exact ends.fails.stage
  | retry retries => exact .failed retries.toEnds
  | announce stage named => exact stage

/-- Work is concluded at one of its stages, but for an announcement. -/
theorem Concludes.stage {result : Except DeliveryError Outcome} {dossier : Dossier}
    (concludes : Concludes conditions policy id start since result dossier) :
    ∃ staged, Stage conditions policy id start since staged ∧ dossier.record = staged.record ∧
      dossier.slot = staged.slot := by
  cases concludes with
  | missing absent => exact ⟨_, .waiting, rfl, rfl⟩
  | unsubscribed stored unknown => exact ⟨_, .waiting, rfl, rfl⟩
  | faulted givesUp fault lasting => exact ⟨_, givesUp.stage id, rfl, rfl⟩
  | inactive stored offered inactive => exact ⟨_, .waiting, rfl, rfl⟩
  | ineligible stored offered landed unable => exact ⟨_, .waiting, rfl, rfl⟩
  | unsigned stored offered refused => exact ⟨_, .waiting, rfl, rfl⟩
  | delivered succeeds => exact ⟨_, .succeeded succeeds, rfl, rfl⟩
  | retried retried => exact ⟨_, .retried retried, rfl, rfl⟩
  | exhausted ends decided => exact ⟨_, .failed ends, rfl, rfl⟩

theorem Doing.apart {effect : Effect} {dossier : Dossier} {other : Uuid}
    (doing : Doing conditions policy id start since effect dossier) (filed : start.Filed id)
    (different : other ≠ id) : ¬effect.Concerns other := by
  intro concerns
  cases doing with
  | quiet stage silent => exact silent other concerns
  | begin begins => exact different (concerns.symm.trans (begins.named filed))
  | send begins => exact different (concerns.symm.trans (begins.named filed))
  | succeed succeeds => exact different (concerns.symm.trans (succeeds.named filed))
  | fail ends => exact different (concerns.symm.trans (ends.named filed))
  | retry retries => exact different concerns.symm
  | announce stage named => exact different (concerns.symm.trans named)

end Attempt

end HookRelay
