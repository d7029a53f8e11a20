import HookRelay.Proofs.Serving

namespace HookRelay

open HookRelay.Attempt

/-- Any call may fail, work may be broken off anywhere and time may go either way, but deliveries find
their subscriptions active and with the limits that they have. -/
def Conditions.faulty (limit : Uuid → Nat) : Conditions where
  storeFails := True
  queueFails := True
  breaksOff := True
  offers _ owner found := ∃ subscription, found = some subscription ∧
    subscription.isActive = true ∧ subscription.maxAttempts = limit owner
  passes _ _ := True
  passes_refl _ := trivial
  passes_trans _ _ _ _ _ := trivial

/-- A delivery is stored, and in the queue unless it is done. -/
def Dossier.Afoot (limit : Uuid → Nat) (dossier : Dossier) : Prop :=
  ∃ record, dossier.record = some record ∧
    (record.isTerminal (limit record.subscriptionId) = false → dossier.slot.isSome = true)

namespace Dossier.Afoot

variable {limit : Uuid → Nat} {policy : RetryPolicy} {id : Uuid} {start flight dossier : Dossier}
  {since : Instant} {record begun : DeliveryRecord} {subscription : Subscription}
  {failure : DeliveryError}

private theorem slot_of_begins (afoot : start.Afoot limit)
    (begins : Begins (.faulty limit) start record begun subscription) :
    start.slot.isSome = true := by
  obtain ⟨held, found, queued⟩ := afoot
  cases begins.stored.symm.trans found
  obtain ⟨_, same, _, limited⟩ := begins.offered
  cases same
  obtain ⟨able, _⟩ := DeliveryRecord.beginAttempt_eq_ok begins.begins
  rw [limited, DeliveryRecord.canAttempt_iff] at able
  exact queued able.2

private theorem slot_of_fails (afoot : start.Afoot limit)
    (fails : Fails (.faulty limit) start since flight record subscription failure) :
    flight.slot.isSome = true := by
  cases fails with
  | interrupted stored offered inFlight =>
    obtain ⟨held, found, queued⟩ := afoot
    cases stored.symm.trans found
    exact queued (by simp [DeliveryRecord.isTerminal, inFlight])
  | answered sends failed =>
    have queued := afoot.slot_of_begins sends.toBegins
    exact queued

private theorem of_slot (stored : dossier.record = some record)
    (queued : dossier.slot.isSome = true) : dossier.Afoot limit :=
  ⟨record, stored, fun _ => queued⟩

private theorem of_terminal (stored : dossier.record = some record)
    (terminal : record.isTerminal (limit record.subscriptionId) = true) :
    dossier.Afoot limit :=
  ⟨record, stored, fun open_ => by simp [terminal] at open_⟩

theorem of_stage (afoot : start.Afoot limit)
    (stage : Stage (.faulty limit) policy id start since dossier) : dossier.Afoot limit := by
  cases stage with
  | waiting => exact afoot
  | begun begins =>
    have queued := afoot.slot_of_begins begins
    exact of_slot rfl queued
  | sent sends =>
    have queued := afoot.slot_of_begins sends.toBegins
    exact of_slot rfl queued
  | succeeded succeeds =>
    have queued := afoot.slot_of_begins succeeds.toBegins
    exact of_slot rfl queued
  | failed ends =>
    have queued := afoot.slot_of_fails ends.fails
    exact of_slot rfl queued
  | retried retried => exact of_slot rfl rfl

/-- When a result settles the delivery, it is done or waits for a retry that no lease is on. -/
theorem of_concludes {result : Except DeliveryError Outcome} (afoot : start.Afoot limit)
    (concludes : Concludes (.faulty limit) policy id start since result dossier) :
    dossier.Afoot limit ∧
      (Worker.isSettled result = true → ∀ lease, (dossier.completed lease).Afoot limit) := by
  cases concludes with
  | missing absent =>
    obtain ⟨record, stored, _⟩ := afoot
    cases absent.symm.trans stored
  | unsubscribed stored unknown =>
    obtain ⟨_, impossible, _⟩ := unknown
    cases impossible
  | faulted givesUp fault lasting =>
    exact ⟨of_stage afoot (givesUp.stage id),
      fun settled => by simp [Worker.isSettled, lasting] at settled⟩
  | inactive stored offered inactive =>
    obtain ⟨_, same, active, _⟩ := offered
    cases same
    simp [inactive] at active
  | @ineligible record subscription stored offered landed unable =>
    obtain ⟨_, same, _, limited⟩ := offered
    cases same
    have terminal : record.isTerminal (limit record.subscriptionId) = true := by
      rw [← limited]
      cases done : record.isTerminal subscription.maxAttempts with
      | true => rfl
      | false =>
        have able := (record.canAttempt_iff subscription.maxAttempts).mpr ⟨landed, done⟩
        cases unable.symm.trans able
    exact ⟨afoot, fun _ lease => of_terminal stored terminal⟩
  | unsigned stored offered refused => exact ⟨afoot, nofun⟩
  | @delivered record begun succeeded subscription sending response now succeeds =>
    have terminal : succeeded.isTerminal (limit succeeded.subscriptionId) = true := by
      obtain ⟨_, rfl⟩ := DeliveryRecord.succeed_eq_ok succeeds.succeeds
      rfl
    exact ⟨of_terminal rfl terminal, fun _ lease => of_terminal rfl terminal⟩
  | retried retried => exact ⟨of_slot rfl rfl, fun _ lease => of_slot rfl rfl⟩
  | @exhausted flight record failed subscription failure now ends decided =>
    obtain ⟨draw, decided⟩ := decided
    have terminal : failed.isTerminal (limit failed.subscriptionId) = true := by
      obtain ⟨_, same, _, limited⟩ := ends.fails.offered
      cases same
      have spent := RetryPolicy.decide?_eq_exhausted decided
      obtain ⟨_, rfl⟩ := DeliveryRecord.fail_eq_ok ends.ends
      rw [limited] at spent
      exact decide_eq_true spent
    exact ⟨of_terminal rfl terminal, fun _ lease => of_terminal rfl terminal⟩

/-- One worker never loses a delivery that counts from the queue before it is done. -/
theorem upkeep (limit : Uuid → Nat) (policy : RetryPolicy) (id : Uuid) (counts : Prop) :
    Upkeep (.faulty limit) policy id (fun _ dossier => counts → dossier.Afoot limit)
      (fun _ dossier => counts → dossier.Afoot limit) where
  holds _ _ _ _ afoot := afoot
  waits _ _ _ _ afoot := afoot
  claims _ _ _ _ _ afoot _ _ := by
    intro counts
    obtain ⟨record, stored, _⟩ := afoot counts
    exact of_slot stored rfl
  drops _ _ _ _ _ afoot _ stage counts := of_stage (afoot counts) stage
  concludes _ _ _ _ _ afoot _ concludes :=
    ⟨fun counts => (of_concludes (afoot counts) concludes).1,
      fun settled lease counts => (of_concludes (afoot counts) concludes).2 settled lease⟩

end Dossier.Afoot

namespace Course

variable {limit : Uuid → Nat} {policy : RetryPolicy} {first site after : Site}
  {accepted : List Uuid} {id : Uuid}

private theorem afoot_of_creates {new : Uuid} {record : DeliveryRecord}
    (afoot : (site.dossier id).Afoot limit) (creates : site.Creates new record after) :
    (after.dossier id).Afoot limit := by
  rw [creates.others id]
  · exact afoot
  · rintro rfl
    obtain ⟨held, stored, _⟩ := afoot
    cases creates.fresh.symm.trans stored

private theorem afoot_of_enqueues {result : Except DeliveryError Uuid}
    (afoot : id ∈ accepted → (site.dossier id).Afoot limit)
    (enqueues : site.Enqueues (.faulty limit) result after)
    (member : id ∈ accepted ++ acceptedIn (some result)) : (after.dossier id).Afoot limit := by
  cases enqueues with
  | @accepted new after accepts =>
    by_cases mine : id = new
    · subst mine
      obtain ⟨owner, eventType, payload, now, due, dossier⟩ := accepts.accepted
      rw [dossier]
      exact ⟨_, rfl, fun _ => rfl⟩
    · rw [accepts.others id mine]
      exact afoot ((List.mem_append.mp member).resolve_right fun new => mine
        (List.mem_singleton.mp new))
  | refused same =>
    rw [same id]
    exact afoot ((List.mem_append.mp member).resolve_right List.not_mem_nil)
  | stranded fault creates =>
    exact afoot_of_creates (afoot ((List.mem_append.mp member).resolve_right List.not_mem_nil))
      creates

theorem afoot (orderly : first.Orderly (.faulty limit))
    (course : Course (.faulty limit) policy first accepted site) :
    site.Orderly (.faulty limit) ∧ (id ∈ accepted → (site.dossier id).Afoot limit) := by
  induction course with
  | start => exact ⟨orderly, nofun⟩
  | meanwhile course drift ih =>
    refine ⟨ih.1.drift drift, fun member => ?_⟩
    rw [drift.1 id trivial]
    exact ih.2 member
  | @enqueue accepted site after subscription eventType payload result course run ih =>
    have ended := run.heeded (Dispatch.enqueue_heeds subscription eventType payload ih.1)
    cases result with
    | some result =>
      obtain ⟨orderly, _, enqueues⟩ := ended
      exact ⟨orderly, afoot_of_enqueues ih.2 enqueues⟩
    | none =>
      obtain ⟨_, orderly, _, same | ⟨new, record, creates⟩⟩ := ended
      · refine ⟨orderly, fun member => ?_⟩
        rw [same id]
        exact ih.2 ((List.mem_append.mp member).resolve_right List.not_mem_nil)
      · exact ⟨orderly, fun member => afoot_of_creates
          (ih.2 ((List.mem_append.mp member).resolve_right List.not_mem_nil)) creates⟩
  | @batch accepted site after settings result course run ih =>
    exact (Dossier.Afoot.upkeep limit policy id (id ∈ accepted)).kept_of_batch ih.1 ih.2 run

/-- Whatever has failed and wherever work was broken off, a delivery that was accepted has a task in
the queue as long as its record is not terminal. -/
theorem queued_of_accepted (orderly : first.Orderly (.faulty limit))
    (course : Course (.faulty limit) policy first accepted site) (member : id ∈ accepted) :
    ∃ record subscription, site.store.deliveries.find? id = some record ∧
      site.store.subscriptions.find? record.subscriptionId = some subscription ∧
      (record.isTerminal subscription.maxAttempts = false →
        (site.queue.slots.find? id).isSome = true) := by
  obtain ⟨orderly, afoot⟩ := course.afoot orderly
  obtain ⟨record, stored, queued⟩ := afoot member
  obtain ⟨subscription, found, _, limited⟩ := orderly.meets id record stored
  refine ⟨record, subscription, stored, found, ?_⟩
  rw [limited]
  exact queued

private theorem meets_of_ready_faulty (site : Site) (found : site.findsAll (·.isReady) = true) :
    (Conditions.faulty fun _ => 2).Meets site := by
  refine Site.meets_of_findsAll (fun _ _ subscription ready => ?_) found
  obtain ⟨active, limited, _⟩ := Subscription.isReady_iff.mp ready
  exact ⟨subscription, rfl, active, limited⟩

private def unanswered : Nat → Except DeliveryError DeliveryResponse := fun _ => .error (.timeout 30)

private def ordered : Option (Except DeliveryError Uuid) × Site :=
  (Dispatch.enqueue .ofOrders "order.created" .null).result.run
    (Site.serve unanswered (Site.findsAll (·.isReady))) (.opened .ofOrders)

/-- A batch that is broken off just before its request is sent. -/
private def interrupted : Option (Except DeliveryError Nat) × Site :=
  (Worker.batch .standard .standard).result.run
    (Site.serve unanswered fun site => site.findsAll (·.isReady) && site.sendings.isEmpty)
    ordered.2

theorem queued_of_interrupted : ∃ site, Course (.faulty fun _ => 2) .standard (.opened .ofOrders)
    [⟨0⟩] site ∧ (site.dossier ⟨0⟩).record.map DeliveryRecord.status = some .processing ∧
    ∃ record subscription, site.store.deliveries.find? ⟨0⟩ = some record ∧
      site.store.subscriptions.find? record.subscriptionId = some subscription ∧
      (record.isTerminal subscription.maxAttempts = false →
        (site.queue.slots.find? ⟨0⟩).isSome = true) := by
  have accepted : acceptedIn ordered.1 = [⟨0⟩] := by decide +kernel
  have enqueue : (Dispatch.enqueue .ofOrders "order.created" .null).result.Runs
      (Conditions.faulty fun _ => 2).alone (.opened .ofOrders) ordered.1 ordered.2 :=
    Site.runs_serve unanswered _ meets_of_ready_faulty fun _ => trivial
  have batch : (Worker.batch .standard .standard).result.Runs
      (Conditions.faulty fun _ => 2).alone ordered.2 interrupted.1 interrupted.2 :=
    Site.runs_serve unanswered _ (fun site checked => meets_of_ready_faulty site
      (Bool.and_eq_true_iff.mp checked).1) fun _ => trivial
  have course := Course.batch (Course.enqueue .start enqueue) batch
  rw [accepted] at course
  exact ⟨interrupted.2, course, by decide +kernel,
    course.queued_of_accepted (Site.orderly_opened _ _) (List.mem_singleton.mpr rfl)⟩

end Course

end HookRelay
