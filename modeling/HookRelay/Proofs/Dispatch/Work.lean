import HookRelay.Proofs.Dispatch.Point

namespace HookRelay

open HookRelay.Action HookRelay.Attempt

theorem Conditions.storeFails_of_error {conditions : Conditions} {call : StoreCall}
    {site after : Site} {error : StoreError}
    (turn : conditions.Turn (.store call) site (.error error) after) : conditions.storeFails := by
  rcases turn with ⟨_, _, allowed, _⟩ | ⟨allowed, _⟩
  · exact allowed.resolve_right Bool.false_ne_true
  · exact allowed

namespace Conditions.Stands

variable {conditions : Conditions} {own : Uuid → Prop} {id : Uuid} {moment : Instant}
  {dossier : Dossier} {site after : Site} {record : DeliveryRecord}

theorem found {found : Option DeliveryRecord}
    (stands : conditions.Stands id moment dossier site)
    (turn : (conditions.around own).turn (.store (.findDelivery id)) site (.ok found) after) :
    dossier.record = found := by
  rcases (Conditions.turn_findDelivery turn.1).1 with same | ⟨_, impossible, _⟩
  · rw [← stands.dossier]
    exact (Except.ok.inj same).symm
  · cases impossible

theorem offered {found : Option Subscription}
    (stands : conditions.Stands id moment dossier site) (stored : dossier.record = some record)
    (turn : (conditions.around own).turn (.store (.findSubscription record.subscriptionId)) site
      (.ok found) after) : conditions.offers record.id record.subscriptionId found := by
  rcases (Conditions.turn_findSubscription turn.1).1 with same | ⟨_, impossible, _⟩
  · rw [Except.ok.inj same]
    apply stands.meets id
    rw [← stored, ← stands.dossier]
    rfl
  · cases impossible

theorem quiet {effect : Effect} {reply : effect.Reply}
    (stands : conditions.Stands id moment dossier site)
    (turn : (conditions.around own).turn effect site reply after)
    (silent : ∀ id, ¬effect.Concerns id) : conditions.Stands id moment dossier after := by
  have same : after.dossier id = dossier :=
    (Conditions.turn_dossier_eq turn.1 (silent id)).trans stands.dossier
  exact same ▸ stands.turn turn

theorem saved (stands : conditions.Stands id moment dossier site) (named : record.id = id)
    (turn : (conditions.around own).turn (.store (.saveDelivery record)) site (.ok ()) after) :
    conditions.Stands id moment (dossier.saved record) after := by
  rcases Conditions.turn_saveDelivery turn.1 with ⟨_, changed⟩ | ⟨⟨_, impossible, _⟩, _⟩
  · have same : after.dossier id = dossier.saved record := by
      rw [changed id, if_pos named, stands.dossier]
    exact same ▸ stands.turn turn
  · cases impossible

theorem unsaved {error : StoreError} (stands : conditions.Stands id moment dossier site)
    (turn : (conditions.around own).turn (.store (.saveDelivery record)) site (.error error) after) :
    conditions.storeFails ∧ conditions.Stands id moment dossier after := by
  rcases Conditions.turn_saveDelivery turn.1 with ⟨impossible, _⟩ | ⟨⟨_, _, fault⟩, same⟩
  · cases impossible
  · have same : after.dossier id = dossier := (same id).trans stands.dossier
    exact ⟨fault, same ▸ stands.turn turn⟩

theorem scheduled {task : Task} (stands : conditions.Stands id moment dossier site)
    (named : task.deliveryId = id)
    (turn : (conditions.around own).turn (.queue (.enqueue task)) site (.ok ()) after) :
    ∃ later due, conditions.passes moment later ∧ dueAt later task.delay = .ok due ∧
      conditions.Stands id moment (dossier.scheduled task due) after := by
  rcases Conditions.turn_enqueue turn.1 with
    ⟨_, due, reached, changed⟩ | ⟨⟨_, impossible, _⟩, _⟩
  · have same : after.dossier id = dossier.scheduled task due := by
      rw [changed id, if_pos named, stands.dossier]
    exact ⟨site.time, due, stands.passed, reached, same ▸ stands.turn turn⟩
  · cases impossible

theorem unscheduled {task : Task} {error : DeliveryError}
    (stands : conditions.Stands id moment dossier site)
    (turn : (conditions.around own).turn (.queue (.enqueue task)) site (.error error) after) :
    ∃ reason, error = .queue reason ∧ conditions.queueFails ∧
      conditions.Stands id moment dossier after := by
  rcases Conditions.turn_enqueue turn.1 with ⟨impossible, _⟩ | ⟨⟨reason, failed, fault⟩, same⟩
  · cases impossible
  · cases failed
    have same : after.dossier id = dossier := (same id).trans stands.dossier
    exact ⟨reason, rfl, fault, same ▸ stands.turn turn⟩

theorem sent {request : DeliveryRequest} {answer : Except DeliveryError DeliveryResponse}
    (stands : conditions.Stands id moment dossier site) (named : request.deliveryId = id)
    (turn : (conditions.around own).turn (.send request) site answer after) :
    conditions.Stands id moment (dossier.sent ⟨request, site.time, dossier.record, answer⟩)
      after := by
  have same : after.dossier id = dossier.sent ⟨request, site.time, dossier.record, answer⟩ := by
    rw [Conditions.turn_send turn.1 id, if_pos named, stands.dossier]
  exact same ▸ stands.turn turn

theorem announced {event : DeliveryEvent} (stands : conditions.Stands id moment dossier site)
    (turn : (conditions.around own).turn (.publish event) site () after)
    (named : event.subject.deliveryId = id) :
    conditions.Stands id moment (dossier.announced event) after := by
  have same : after.dossier id = dossier.announced event := by
    rw [Conditions.turn_publish turn.1, if_pos named, stands.dossier]
  exact same ▸ stands.turn turn

end Conditions.Stands

namespace Dispatch

variable {conditions : Conditions} {policy : RetryPolicy} {own : Uuid → Prop} {id : Uuid}
  {start dossier : Dossier} {since moment : Instant} {site met after : Site} {point next : Point}
  {effect : Effect} {reply : effect.Reply}

/-- What is held about the delivery at each point of the work, and since when. -/
inductive At (conditions : Conditions) (policy : RetryPolicy) (id : Uuid) (start : Dossier)
    (since : Instant) : Point → Instant → Dossier → Prop where
  | called : At conditions policy id start since (.called id) since start
  | loaded {record : DeliveryRecord} (stored : start.record = some record) :
      At conditions policy id start since (.loaded record) since start
  | eligible {subscription : Subscription} {record : DeliveryRecord}
      {active : subscription.isActive = true}
      {able : record.canAttempt subscription.maxAttempts = true}
      (stored : start.record = some record)
      (offered : conditions.offers record.id record.subscriptionId (some subscription)) :
      At conditions policy id start since (.eligible subscription record active able) since start
  | begun {attempt : Begun}
      (begins : Begins conditions start attempt.record attempt.begun attempt.subscription) :
      At conditions policy id start since (.begun attempt) since start
  | ready {attempt : Begun}
      (begins : Begins conditions start attempt.record attempt.begun attempt.subscription) :
      At conditions policy id start since (.ready attempt) since (start.saved attempt.begun)
  | answered {attempt : Begun} {sending : Sending}
      {answer : Except DeliveryError DeliveryResponse} (answered : sending.answer = answer)
      (sends : Sends conditions start since attempt.record attempt.begun attempt.subscription
        sending) : At conditions policy id start since (.answered attempt answer) since
          ((start.saved attempt.begun).sent sending)
  | accepted {success : Success} {sending : Sending}
      (succeeds : Succeeds conditions start since success.record success.begun success.succeeded
        success.subscription sending success.response success.now) :
      At conditions policy id start since (.accepted success) since
        ((start.saved success.begun).sent sending)
  | succeeded {success : Success} {sending : Sending}
      (succeeds : Succeeds conditions start since success.record success.begun success.succeeded
        success.subscription sending success.response success.now) :
      At conditions policy id start since (.succeeded success) since
        (((start.saved success.begun).sent sending).saved success.succeeded)
  | credited {success : Success} {sending : Sending}
      (succeeds : Succeeds conditions start since success.record success.begun success.succeeded
        success.subscription sending success.response success.now) :
      At conditions policy id start since (.credited success) since
        (((start.saved success.begun).sent sending).saved success.succeeded)
  | refused {flight : Flight} {dossier : Dossier}
      (fails : Fails conditions start since dossier flight.record flight.subscription
        flight.failure) : At conditions policy id start since (.refused flight) since dossier
  | failing {failure : Failure} {flight : Dossier}
      (ends : Ends conditions start since flight failure.record failure.failed failure.subscription
        failure.failure failure.now) :
      At conditions policy id start since (.failing failure) failure.now flight
  | failed {failure : Failure} {flight : Dossier}
      (ends : Ends conditions start since flight failure.record failure.failed failure.subscription
        failure.failure failure.now) :
      At conditions policy id start since (.failed failure) failure.now
        (flight.saved failure.failed)
  | charged {failure : Failure} {flight : Dossier}
      (ends : Ends conditions start since flight failure.record failure.failed failure.subscription
        failure.failure failure.now) :
      At conditions policy id start since (.charged failure) failure.now
        (flight.saved failure.failed)
  | retrying {failure : Failure} {flight : Dossier} {delay : Duration}
      (retries : Retries conditions policy start since flight failure.record failure.failed
        failure.subscription failure.failure failure.now delay) :
      At conditions policy id start since (.retrying failure delay) failure.now
        (flight.saved failure.failed)
  | retried {failure : Failure} {flight : Dossier} {delay : Duration} {due : Instant}
      (retried : Retried conditions policy start since flight failure.record failure.failed
        failure.subscription failure.failure failure.now delay due) :
      At conditions policy id start since (.retried failure delay) failure.now
        ((flight.saved failure.failed).scheduled ⟨id, delay⟩ due)
  | exhausted {failure : Failure} {flight : Dossier}
      (ends : Ends conditions start since flight failure.record failure.failed failure.subscription
        failure.failure failure.now)
      (decided : ∃ draw, policy.decide? failure.failed.attempts failure.subscription.maxAttempts
        draw = some .exhausted) :
      At conditions policy id start since (.exhausted failure) failure.now
        (flight.saved failure.failed)
  | undecided {dossier : Dossier} {now : Instant}
      (stage : Stage conditions policy id start since dossier) :
      At conditions policy id start since .undecided now dossier
  | ended {result : Except DeliveryError Outcome} {dossier : Dossier} {now : Instant}
      (concludes : Concludes conditions policy id start since result dossier) :
      At conditions policy id start since (.ended result) now dossier

/-- At each point, the work does what an attempt does. -/
theorem At.doing (filed : start.Filed id)
    (at_ : At conditions policy id start since point moment dossier)
    (does : point.does = some effect) : Doing conditions policy id start since effect dossier := by
  cases at_ with
  | called => cases does; exact .quiet .waiting nofun
  | loaded stored => cases does; exact .quiet .waiting nofun
  | eligible stored offered => cases does; exact .quiet .waiting nofun
  | begun begins => cases does; exact .begin begins
  | ready begins => cases does; exact .send begins _ _ _
  | answered answered sends => cases does; exact .quiet (.sent sends) nofun
  | accepted succeeds => cases does; exact .succeed succeeds
  | succeeded succeeds => cases does; exact .quiet (.succeeded succeeds) nofun
  | credited succeeds => cases does; exact .announce (.succeeded succeeds) (succeeds.named filed)
  | refused fails => cases does; exact .quiet fails.stage nofun
  | failing ends => cases does; exact .fail ends
  | failed ends => cases does; exact .quiet (.failed ends) nofun
  | charged ends => cases does; exact .quiet (.failed ends) nofun
  | retrying retries =>
    cases does
    rw [retries.named filed]
    exact .retry retries
  | retried retried => cases does; exact .announce (.retried retried) (retried.named filed)
  | exhausted ends decided => cases does; exact .announce (.failed ends) (ends.named filed)
  | undecided stage => cases does; exact .quiet stage nofun
  | ended concludes => cases does

/-- The work is at a point, at a site where this is held about the delivery. -/
def Reaches (conditions : Conditions) (policy : RetryPolicy) (id : Uuid) (start : Dossier)
    (since : Instant) (point : Point) (site : Site) : Prop :=
  ∃ moment dossier, conditions.Stands id moment dossier site ∧
    At conditions policy id start since point moment dossier

theorem Reaches.turn (filed : start.Filed id) (goes : Point.Goes policy point effect reply next)
    (turn : (conditions.around own).turn effect met reply after)
    (reaches : Reaches conditions policy id start since point met) :
    Reaches conditions policy id start since next after := by
  obtain ⟨moment, dossier, stands, held⟩ := reaches
  cases goes with
  | unread error =>
    cases held
    have fault := Conditions.storeFails_of_error turn.1
    exact ⟨_, _, stands.quiet turn nofun, .ended (.faulted .waiting (.inl fault) rfl)⟩
  | missing =>
    cases held
    exact ⟨_, _, stands.quiet turn nofun, .ended (.missing (stands.found turn))⟩
  | loads record =>
    cases held
    exact ⟨_, _, stands.quiet turn nofun, .loaded (stands.found turn)⟩
  | unowned error =>
    cases held
    have fault := Conditions.storeFails_of_error turn.1
    exact ⟨_, _, stands.quiet turn nofun, .ended (.faulted .waiting (.inl fault) rfl)⟩
  | orphaned =>
    cases held with
    | loaded stored =>
      exact ⟨_, _, stands.quiet turn nofun, .ended (.unsubscribed stored (stands.offered stored turn))⟩
  | interrupted subscription inFlight =>
    cases held with
    | loaded stored =>
      exact ⟨_, _, stands.quiet turn nofun,
        .refused (.interrupted stored (stands.offered stored turn) inFlight)⟩
  | inactive subscription landed inactive =>
    cases held with
    | loaded stored =>
      exact ⟨_, _, stands.quiet turn nofun,
        .ended (.inactive stored (stands.offered stored turn) inactive)⟩
  | ineligible subscription landed active unable =>
    cases held with
    | loaded stored =>
      exact ⟨_, _, stands.quiet turn nofun,
        .ended (.ineligible stored (stands.offered stored turn) landed unable)⟩
  | admits subscription landed active able =>
    cases held with
    | loaded stored =>
      exact ⟨_, _, stands.quiet turn nofun, .eligible stored (stands.offered stored turn)⟩
  | unsigned prepared refused =>
    cases held with
    | eligible stored offered =>
      exact ⟨_, _, stands.quiet turn nofun, .ended (.unsigned stored offered refused)⟩
  | @begins _ _ active _ prepared _ _ begins signed =>
    cases held with
    | eligible stored offered =>
      exact ⟨_, _, stands.quiet turn nofun, .begun ⟨stored, offered, active, begins⟩⟩
  | unbegun error =>
    cases held
    obtain ⟨fault, stands⟩ := stands.unsaved turn
    exact ⟨_, _, stands, .ended (.faulted .waiting (.inl fault) rfl)⟩
  | readies =>
    cases held with
    | begun begins => exact ⟨_, _, stands.saved (begins.named filed) turn, .ready begins⟩
  | @sends attempt answer =>
    cases held with
    | ready begins =>
      refine ⟨_, _, stands.sent (begins.named filed) turn, .answered rfl ⟨begins, ?_, rfl, ?_⟩⟩
      · exact ⟨attempt.signature, attempt.prepared, attempt.signed, rfl⟩
      · exact stands.passed
  | accepts now accepted succeeds =>
    cases held with
    | answered answered sends =>
      exact ⟨_, _, stands.quiet turn nofun, .accepted ⟨sends, answered, accepted, succeeds⟩⟩
  | refuses completed refused =>
    cases held with
    | answered answered sends =>
      have fails := (congrArg failure? answered).trans refused
      exact ⟨_, _, stands.quiet turn nofun, .refused (.answered sends fails)⟩
  | unsucceeded error =>
    cases held with
    | accepted succeeds =>
      obtain ⟨fault, stands⟩ := stands.unsaved turn
      exact ⟨_, _, stands, .ended (.faulted (.sent succeeds.toSends) (.inl fault) rfl)⟩
  | succeeds =>
    cases held with
    | accepted succeeds => exact ⟨_, _, stands.saved (succeeds.named filed) turn, .succeeded succeeds⟩
  | credits counted =>
    cases held with
    | succeeded succeeds => exact ⟨_, _, stands.quiet turn nofun, .credited succeeds⟩
  | delivers =>
    cases held with
    | credited succeeds =>
      exact ⟨_, _, stands.announced turn (succeeds.named filed), .ended (.delivered succeeds)⟩
  | notices now ended =>
    cases held with
    | refused fails =>
      obtain ⟨told, rfl⟩ := turn.1
      have stands := (stands.quiet turn nofun).rebase
      rw [← told] at stands
      exact ⟨_, _, stands, .failing ⟨fails, ended⟩⟩
  | unfailed error =>
    cases held with
    | failing ends =>
      obtain ⟨fault, stands⟩ := stands.unsaved turn
      exact ⟨_, _, stands, .ended (.faulted ends.fails.givesUp (.inl fault) rfl)⟩
  | fails =>
    cases held with
    | failing ends => exact ⟨_, _, stands.saved (ends.named filed) turn, .failed ends⟩
  | charges counted =>
    cases held with
    | failed ends => exact ⟨_, _, stands.quiet turn nofun, .charged ends⟩
  | hesitates undecided =>
    cases held with
    | charged ends => exact ⟨_, _, stands.quiet turn nofun, .undecided (.failed ends)⟩
  | retries decided =>
    cases held with
    | charged ends => exact ⟨_, _, stands.quiet turn nofun, .retrying ⟨ends, _, decided⟩⟩
  | exhausts decided =>
    cases held with
    | charged ends => exact ⟨_, _, stands.quiet turn nofun, .exhausted ends ⟨_, decided⟩⟩
  | unqueued error =>
    cases held with
    | retrying retries =>
      obtain ⟨_, rfl, fault, stands⟩ := stands.unscheduled turn
      exact ⟨_, _, stands, .ended (.faulted (.unqueued retries) (.inr fault) rfl)⟩
  | queues =>
    cases held with
    | retrying retries =>
      obtain ⟨later, due, passed, reached, stands⟩ := stands.scheduled (retries.named filed) turn
      rw [retries.named filed] at stands
      exact ⟨_, _, stands, .retried ⟨retries, later, passed, reached⟩⟩
  | announces =>
    cases held with
    | retried retried =>
      exact ⟨_, _, stands.announced turn (retried.named filed), .ended (.retried retried)⟩
  | reports =>
    cases held with
    | exhausted ends decided =>
      exact ⟨_, _, stands.announced turn (ends.named filed), .ended (.exhausted ends decided)⟩

/-- An action keeps to the stages of work on a delivery, and ends as such work is concluded. -/
def Works (conditions : Conditions) (policy : RetryPolicy) (own : Uuid → Prop) (id : Uuid)
    (start : Dossier) (since : Instant) (action : Program Relay (Except DeliveryError Outcome))
    (site : Site) : Prop :=
  action.Heeds (conditions.around own)
    (fun effect site => Doing conditions policy id start since effect (site.dossier id))
    (fun result site => Concludes conditions policy id start since result (site.dossier id)) site

/-- What a call does and how it ends, told by what is held about its delivery at the start. -/
theorem process_works (mine : own id) (filed : start.Filed id)
    (stands : conditions.Stands id since start site) :
    Works conditions policy own id start since (process policy id).result site := by
  have called : Reaches conditions policy id start since (.called id) site :=
    ⟨since, start, stands, .called⟩
  refine (governs_process policy id).heeds called ?_ ?_ ?_ ?_
  · intro point site met drift ⟨moment, dossier, stands, held⟩
    exact ⟨moment, dossier, stands.drift drift mine, held⟩
  · intro point effect site does ⟨moment, dossier, stands, held⟩
    rw [stands.dossier]
    exact held.doing filed does
  · exact fun _ _ _ _ _ _ goes turn reaches => reaches.turn filed goes turn
  · intro result site ⟨moment, dossier, stands, held⟩
    rw [stands.dossier]
    cases held with
    | ended concludes => exact concludes

end Dispatch

end HookRelay
