import HookRelay.Proofs.Serving

namespace HookRelay

open HookRelay.Attempt

/-- Any call may fail, owners may edit all but their limits on attempts and time may go either way,
but work is not broken off. -/
def Conditions.steady (limit : Uuid → Nat) : Conditions where
  storeFails := True
  queueFails := True
  breaksOff := False
  offers _ owner found := ∀ subscription, found = some subscription →
    subscription.maxAttempts = limit owner
  passes _ _ := True
  passes_refl _ := trivial
  passes_trans _ _ _ _ _ := trivial

def DeliveryRecord.isSpent (record : DeliveryRecord) (most : Nat) : Bool :=
  record.status = .failed && most ≤ record.attempts

theorem DeliveryRecord.open_of_not_terminal {record : DeliveryRecord} {most : Nat}
    (running : record.isTerminal most = false) :
    record.isSpent most = false ∧ record.status ≠ .successful := by
  unfold isTerminal at running
  unfold isSpent
  cases status : record.status with
  | pending => exact ⟨rfl, nofun⟩
  | processing => exact ⟨rfl, nofun⟩
  | successful => simp [status] at running
  | failed => exact ⟨by simpa [status] using running, nofun⟩

/-- What is announced about a delivery is what its record says; nothing while there is none. -/
structure Dossier.Reported (limit : Uuid → Nat) (dossier : Dossier) : Prop where
  exhaustions : dossier.events.countP DeliveryEvent.isExhausted =
    if dossier.record.any fun record => record.isSpent (limit record.subscriptionId) then 1 else 0
  successes : dossier.events.countP DeliveryEvent.isSucceeded =
    if dossier.record.any fun record => record.status = .successful then 1 else 0

/-- Neither the end of its attempts nor its success has been announced for a delivery. -/
structure Dossier.Unreported (dossier : Dossier) : Prop where
  exhaustions : dossier.events.countP DeliveryEvent.isExhausted = 0
  successes : dossier.events.countP DeliveryEvent.isSucceeded = 0

namespace Dossier.Reported

variable {limit : Uuid → Nat} {policy : RetryPolicy} {id : Uuid} {start flight dossier : Dossier}
  {since : Instant} {record begun : DeliveryRecord} {subscription : Subscription}
  {failure : DeliveryError}

theorem of_same (reported : start.Reported limit) (same : dossier.record = start.record)
    (silent : dossier.events = start.events) : dossier.Reported limit := by
  obtain ⟨exhaustions, successes⟩ := reported
  rw [← same, ← silent] at exhaustions successes
  exact ⟨exhaustions, successes⟩

theorem of_unreported (unreported : dossier.Unreported) (stored : dossier.record = some record)
    (running : record.isTerminal (limit record.subscriptionId) = false) :
    dossier.Reported limit := by
  obtain ⟨unspent, open_⟩ := DeliveryRecord.open_of_not_terminal running
  constructor
  · rw [unreported.exhaustions, stored, Option.any_some, unspent]
    rfl
  · rw [unreported.successes, stored, Option.any_some, decide_eq_false open_]
    rfl

private theorem unreported (reported : dossier.Reported limit)
    (stored : dossier.record = some record)
    (running : record.isTerminal (limit record.subscriptionId) = false) :
    dossier.Unreported := by
  obtain ⟨unspent, open_⟩ := DeliveryRecord.open_of_not_terminal running
  obtain ⟨exhaustions, successes⟩ := reported
  rw [stored, Option.any_some, unspent] at exhaustions
  rw [stored, Option.any_some, decide_eq_false open_] at successes
  exact ⟨exhaustions, successes⟩

private theorem unreported_of_begins (reported : start.Reported limit)
    (begins : Begins (.steady limit) start record begun subscription) : start.Unreported := by
  obtain ⟨able, _⟩ := DeliveryRecord.beginAttempt_eq_ok begins.begins
  rw [begins.offered subscription rfl, DeliveryRecord.canAttempt_iff] at able
  exact reported.unreported begins.stored able.2

private theorem unreported_of_fails (reported : start.Reported limit)
    (fails : Fails (.steady limit) start since flight record subscription failure) :
    flight.Unreported := by
  cases fails with
  | interrupted stored offered inFlight =>
    exact reported.unreported stored (by simp [DeliveryRecord.isTerminal, inFlight])
  | answered sends failed =>
    -- Neither the save nor the request announces anything.
    obtain ⟨exhaustions, successes⟩ := reported.unreported_of_begins sends.toBegins
    exact ⟨exhaustions, successes⟩

private theorem running_of_retries {failed : DeliveryRecord} {now : Instant} {delay : Duration}
    (retries : Retries (.steady limit) policy start since flight record failed subscription failure
      now delay) : failed.isTerminal (limit failed.subscriptionId) = false := by
  obtain ⟨draw, decided⟩ := retries.decided
  obtain ⟨left, _⟩ := RetryPolicy.decide?_eq_retry decided
  have limited := retries.fails.offered subscription rfl
  obtain ⟨_, rfl⟩ := DeliveryRecord.fail_eq_ok retries.ends
  rw [limited] at left
  simpa [DeliveryRecord.isTerminal] using left

/-- Whatever comes of a call, what is announced by then goes by the record that it leaves. -/
theorem of_concludes {result : Except DeliveryError Outcome} (reported : start.Reported limit)
    (concludes : Concludes (.steady limit) policy id start since result dossier) :
    dossier.Reported limit := by
  cases concludes with
  | missing absent => exact reported
  | unsubscribed stored unknown => exact reported
  | inactive stored offered inactive => exact reported
  | ineligible stored offered landed unable => exact reported
  | unsigned stored offered refused => exact reported
  | faulted givesUp fault lasting =>
    cases givesUp with
    | waiting => exact reported
    | @sent record begun subscription sending sends =>
      obtain ⟨exhaustions, successes⟩ := reported.unreported_of_begins sends.toBegins
      have running : begun.isTerminal (limit begun.subscriptionId) = false := by
        simp [DeliveryRecord.isTerminal, sends.inFlight]
      exact of_unreported ⟨exhaustions, successes⟩ rfl running
    | @unqueued flight record failed subscription failure now delay retries =>
      obtain ⟨exhaustions, successes⟩ := reported.unreported_of_fails retries.fails
      exact of_unreported ⟨exhaustions, successes⟩ rfl (running_of_retries retries)
  | @delivered record begun succeeded subscription sending response now succeeds =>
    obtain ⟨exhaustions, successes⟩ := reported.unreported_of_begins succeeds.toBegins
    obtain ⟨_, rfl⟩ := DeliveryRecord.succeed_eq_ok succeeds.succeeds
    constructor
    · show (start.events ++ [successEvent subscription begun _ response now]).countP _ = _
      rw [List.countP_append, exhaustions]
      rfl
    · show (start.events ++ [successEvent subscription begun _ response now]).countP _ = _
      rw [List.countP_append, successes]
      rfl
  | @retried flight record failed subscription failure now due delay retried =>
    obtain ⟨exhaustions, successes⟩ := reported.unreported_of_fails retried.fails
    refine of_unreported ⟨?_, ?_⟩ rfl (running_of_retries retried.toRetries)
    · show (flight.events ++
        [failureEvent subscription record failed failure delay now]).countP _ = _
      rw [List.countP_append, exhaustions]
      rfl
    · show (flight.events ++
        [failureEvent subscription record failed failure delay now]).countP _ = _
      rw [List.countP_append, successes]
      rfl
  | @exhausted flight record failed subscription failure now ends decided =>
    obtain ⟨exhaustions, successes⟩ := reported.unreported_of_fails ends.fails
    obtain ⟨draw, decided⟩ := decided
    have spent := RetryPolicy.decide?_eq_exhausted decided
    rw [ends.fails.offered subscription rfl] at spent
    obtain ⟨_, rfl⟩ := DeliveryRecord.fail_eq_ok ends.ends
    constructor
    · show (flight.events ++ [exhaustionEvent subscription _ failure now]).countP _ = _
      rw [List.countP_append, exhaustions]
      exact (if_pos (by simpa [Dossier.announced, saved, DeliveryRecord.isSpent] using spent)).symm
    · show (flight.events ++ [exhaustionEvent subscription _ failure now]).countP _ = _
      rw [List.countP_append, successes]
      rfl

theorem created {owner : Uuid} {eventType : String} {payload : Json.Value} {now : Instant}
    (reported : dossier.Reported limit) (fresh : dossier.record = none) :
    (dossier.created (.pending id owner eventType payload now)).Reported limit := by
  obtain ⟨exhaustions, successes⟩ := reported
  rw [fresh] at exhaustions successes
  exact of_unreported ⟨exhaustions, successes⟩ rfl rfl

end Dossier.Reported

/-- Deliveries are enqueued and calls made for them, one after another; what happens in between
leaves records as they are and announces nothing. -/
inductive Calls (conditions : Conditions) (policy : RetryPolicy) (first : Site) : Site → Prop where
  | start : Calls conditions policy first first
  | meanwhile {site after : Site} (calls : Calls conditions policy first site)
      (same : ∀ id, (after.dossier id).record = (site.dossier id).record)
      (silent : ∀ id, (after.dossier id).events = (site.dossier id).events)
      (meets : conditions.Meets site → conditions.Meets after) : Calls conditions policy first after
  | enqueue {site after : Site} {subscription : Subscription} {eventType : String}
      {payload : Json.Value} {result : Option (Except DeliveryError Uuid)}
      (calls : Calls conditions policy first site)
      (run : (Dispatch.enqueue subscription eventType payload).result.Runs conditions.alone
        site result after) : Calls conditions policy first after
  | process {site after : Site} {id : Uuid} {result : Option (Except DeliveryError Outcome)}
      (calls : Calls conditions policy first site)
      (run : (Dispatch.process policy id).result.Runs conditions.alone site result after) :
      Calls conditions policy first after

namespace Calls

variable {limit : Uuid → Nat} {policy : RetryPolicy} {first site after : Site} {id : Uuid}

private theorem reported_of_enqueues {result : Except DeliveryError Uuid}
    (reported : (site.dossier id).Reported limit)
    (enqueues : site.Enqueues (.steady limit) result after) :
    (after.dossier id).Reported limit := by
  cases enqueues.dossier id with
  | untouched same unaccepted => exact same ▸ reported
  | stranded fresh created unaccepted => exact created ▸ reported.created fresh
  | accepted fresh scheduled =>
    rw [scheduled]
    exact (reported.created fresh).of_same rfl rfl

theorem reported (orderly : first.Orderly (.steady limit))
    (start : (first.dossier id).Reported limit) (calls : Calls (.steady limit) policy first site) :
    site.Orderly (.steady limit) ∧ (site.dossier id).Reported limit := by
  induction calls with
  | start => exact ⟨orderly, start⟩
  | meanwhile calls same silent meets ih =>
    exact ⟨ih.1.of_record meets same, ih.2.of_same (same id) (silent id)⟩
  | @enqueue site after subscription eventType payload result calls run ih =>
    have ended := run.heeded (Dispatch.enqueue_heeds subscription eventType payload ih.1)
    cases result with
    | none => exact (run.allowed rfl : False).elim
    | some result =>
      obtain ⟨orderly, _, enqueues⟩ := ended
      exact ⟨orderly, reported_of_enqueues ih.2 enqueues⟩
  | @process site after other result calls run ih =>
    have ended := run.heeded (Dispatch.process_alone policy other ih.1)
    cases result with
    | none => exact (run.allowed rfl : False).elim
    | some result =>
      obtain ⟨leads, concludes⟩ := ended
      refine ⟨leads.orderly, ?_⟩
      by_cases mine : id = other
      · subst mine
        exact ih.2.of_concludes concludes
      · rw [leads.others id mine]
        exact ih.2

/-- Between calls, a delivery that was created since has had one alert if its attempts have run out
and none otherwise, and one word of success if it has succeeded and none otherwise. -/
theorem announced_once {record : DeliveryRecord} (orderly : first.Orderly (.steady limit))
    (new : first.store.deliveries.find? id = none)
    (silent : ∀ event ∈ first.events, event.subject.deliveryId ≠ id)
    (calls : Calls (.steady limit) policy first site)
    (stored : site.store.deliveries.find? id = some record) :
    (∀ subscription, site.store.subscriptions.find? record.subscriptionId = some subscription →
      subscription.maxAttempts = limit record.subscriptionId) ∧
    (site.dossier id).events.countP DeliveryEvent.isExhausted =
      (if record.status = .failed ∧ limit record.subscriptionId ≤ record.attempts then 1 else 0) ∧
    (site.dossier id).events.countP DeliveryEvent.isSucceeded =
      (if record.status = .successful then 1 else 0) := by
  have quiet : (first.dossier id).events = [] :=
    List.filter_eq_nil_iff.mpr fun event member => by simpa using silent event member
  have start : (first.dossier id).Reported limit := by
    constructor
    · rw [quiet, show (first.dossier id).record = none from new]
      rfl
    · rw [quiet, show (first.dossier id).record = none from new]
      rfl
  obtain ⟨orderly, exhaustions, successes⟩ := calls.reported orderly start
  rw [show (site.dossier id).record = some record from stored] at exhaustions successes
  refine ⟨orderly.meets id record stored, ?_, ?_⟩
  · rw [exhaustions]
    simp [DeliveryRecord.isSpent]
  · rw [successes]
    simp

private theorem meets_of_ready_steady (site : Site) (found : site.findsAll (·.isReady) = true) :
    (Conditions.steady fun _ => 2).Meets site := by
  refine Site.meets_of_findsAll (fun _ _ subscription ready other same => ?_) found
  cases same
  exact (Subscription.isReady_iff.mp ready).2.1

/-- At first, the end of the second attempt cannot be saved. -/
private def losesEnd : StoreCall → Site → Bool
  | .saveDelivery record, site =>
    record.status = .failed && record.attempts = 2 && site.time = ⟨0⟩
  | _, _ => false

private abbrev hindered : Program.World Relay Site :=
  Site.serveUnless losesEnd (fun _ => .ok ⟨500, ""⟩) (Site.findsAll (·.isReady))

private theorem runs_hindered {α : Type} (program : Program Relay α) (site : Site)
    (ended : (program.run hindered site).1.isSome = true) :
    program.Runs (Conditions.steady fun _ => 2).alone site (program.run hindered site).1
      (program.run hindered site).2 :=
  Site.runs_serveUnless _ _ _ trivial meets_of_ready_steady fun stopped => by
    simp [stopped] at ended

private def ordered : Option (Except DeliveryError Uuid) × Site :=
  (Dispatch.enqueue .ofOrders "order.created" .null).result.run hindered (.opened .ofOrders)

private def called (site : Site) : Option (Except DeliveryError Outcome) × Site :=
  (Dispatch.process .standard ⟨0⟩).result.run hindered site

private theorem process_called {site : Site}
    (calls : Calls (.steady fun _ => 2) .standard (.opened .ofOrders) site)
    (ended : (called site).1.isSome = true) :
    Calls (.steady fun _ => 2) .standard (.opened .ofOrders) (called site).2 :=
  .process calls (runs_hindered _ site ended)

/-- A minute after the start, when the store can be written to again. -/
private def resumed (site : Site) : Site := { site with time := .ofSeconds 60 }

private theorem wait_resumed {site : Site}
    (calls : Calls (.steady fun _ => 2) .standard (.opened .ofOrders) site) :
    Calls (.steady fun _ => 2) .standard (.opened .ofOrders) (resumed site) :=
  .meanwhile calls (fun _ => rfl) (fun _ => rfl) id

private def interrupted : Option (Except DeliveryError Outcome) × Site :=
  called (called ordered.2).2

/-- The alert comes with the call that finds the attempt interrupted, and not again. -/
theorem announced_once_after_interruption : ∃ site record,
    Calls (.steady fun _ => 2) .standard (.opened .ofOrders) site ∧
      interrupted.1.map Except.isOk = some false ∧
      site.store.deliveries.find? ⟨0⟩ = some record ∧
      record.status = .failed ∧ record.attempts = 2 ∧
      (site.dossier ⟨0⟩).events.countP DeliveryEvent.isExhausted = 1 ∧
      (site.dossier ⟨0⟩).events.countP DeliveryEvent.isSucceeded = 0 := by
  have enqueued : Calls (.steady fun _ => 2) .standard (.opened .ofOrders) ordered.2 :=
    .enqueue .start (runs_hindered _ _ (by decide +kernel))
  have broken : Calls (.steady fun _ => 2) .standard (.opened .ofOrders) interrupted.2 :=
    process_called (process_called enqueued (by decide +kernel)) (by decide +kernel)
  have calls := process_called (process_called (wait_resumed broken) (by decide +kernel))
    (by decide +kernel)
  have shape : ((called (called (resumed interrupted.2)).2).2.store.deliveries.find? ⟨0⟩).any
      (fun record => record.status = .failed && record.attempts = 2) = true := by decide +kernel
  obtain ⟨record, stored, shape⟩ := (Option.any_eq_true _ _).mp shape
  obtain ⟨status, attempts⟩ : record.status = .failed ∧ record.attempts = 2 := by
    simpa using shape
  obtain ⟨_, exhaustions, successes⟩ := calls.announced_once (Site.orderly_opened _ _) rfl
    (fun event member => absurd member List.not_mem_nil) stored
  refine ⟨_, record, calls, by decide +kernel, stored, status, attempts, ?_, ?_⟩
  · rw [exhaustions, status, attempts]
    rfl
  · rw [successes, status]
    rfl

end Calls

end HookRelay
