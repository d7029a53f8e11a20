import HookRelay.Proofs.Interleaving

namespace HookRelay

open HookRelay.Action HookRelay.Attempt

abbrev Operations := List (Program.Moment Relay Site)

namespace Operations

def EndsOn (operations : Operations) (effect : Effect) (reply : effect.Reply) : Prop :=
  ∃ earlier met after, operations = earlier ++ [⟨effect, met, reply, after⟩]

/-- The owner of a delivery was looked up and found. -/
def Finds (operations : Operations) (owner : Uuid) (subscription : Subscription) : Prop :=
  ∃ met after, ⟨.store (.findSubscription owner), met, .ok (some subscription), after⟩ ∈ operations

/-- A store call was answered by a transition that it does not allow. -/
def BlamesStore (operations : Operations) : Prop :=
  ∃ (call : StoreCall) (met after : Site) (transition : InvalidTransition),
    ⟨.store call, met, .error (.invalidTransition transition), after⟩ ∈ operations

/-- All that was done was to look up what is stored, and everything was left as it was met. -/
def Looked (operations : Operations) : Prop :=
  ∀ moment ∈ operations, moment.after = moment.met ∧
    ∃ id, moment.op = .store (.findDelivery id) ∨ moment.op = .store (.findSubscription id)

theorem Finds.last (operations : Operations) (owner : Uuid) (subscription : Subscription)
    (met after : Site) :
    Finds (operations ++ [⟨.store (.findSubscription owner), met, .ok (some subscription), after⟩])
      owner subscription :=
  ⟨met, after, List.mem_append_right _ List.mem_cons_self⟩

theorem Finds.later {operations : Operations} {owner : Uuid} {subscription : Subscription}
    (finds : operations.Finds owner subscription) (moment : Program.Moment Relay Site) :
    Finds (operations ++ [moment]) owner subscription := by
  obtain ⟨met, after, member⟩ := finds
  exact ⟨met, after, List.mem_append_left _ member⟩

theorem Looked.later {operations : Operations} {moment : Program.Moment Relay Site}
    (looked : operations.Looked) (same : moment.after = moment.met)
    (looks : ∃ id, moment.op = .store (.findDelivery id) ∨ moment.op = .store (.findSubscription id)) :
    Looked (operations ++ [moment]) := by
  intro other member
  rcases List.mem_append.mp member with earlier | last
  · exact looked other earlier
  · rw [List.mem_singleton.mp last]
    exact ⟨same, looks⟩

end Operations

/-- There is room to count the first attempt of a record. -/
def Dossier.Countable (dossier : Dossier) : Prop :=
  ∀ record, dossier.record = some record → record.status = .pending →
    record.attempts < DeliveryRecord.greatestAttempts

/-- How a call on a delivery breaks down, and what is held about the delivery then: nothing has changed
up to the first save, an attempt in flight stays in flight where its outcome cannot be saved, and
where its retry cannot be queued it is on record as a failure that may be tried again. -/
inductive Breaks (id : Uuid) (start : Dossier) (since : Instant)
    (operations : Operations) : DeliveryError → Dossier → Prop where
  | missing (absent : start.record = none) :
      Breaks id start since operations (.deliveryNotFound id) start
  | orphaned {record : DeliveryRecord} (stored : start.record = some record)
      (unknown : operations.EndsOn (.store (.findSubscription record.subscriptionId)) (.ok none)) :
      Breaks id start since operations (.subscriptionNotFound record.subscriptionId) start
  | unread {error : StoreError}
      (fault : operations.EndsOn (.store (.findDelivery id)) (.error error)) :
      Breaks id start since operations (.ofStore error) start
  | unowned {record : DeliveryRecord} {error : StoreError} (stored : start.record = some record)
      (fault : operations.EndsOn (.store (.findSubscription record.subscriptionId))
        (.error error)) : Breaks id start since operations (.ofStore error) start
  | unsigned {record : DeliveryRecord} {subscription : Subscription} {body : Bytes}
      {error : SignatureError} (stored : start.record = some record)
      (finds : operations.Finds record.subscriptionId subscription)
      (refused : Signature.signBytes body subscription.secret = .error error) :
      Breaks id start since operations (.ofSignature error) start
  | unbegun {record begun : DeliveryRecord} {subscription : Subscription} {error : StoreError}
      (begins : Begins .wild start record begun subscription)
      (fault : operations.EndsOn (.store (.saveDelivery begun)) (.error error)) :
      Breaks id start since operations (.ofStore error) start
  | unsettled {record begun ended : DeliveryRecord} {subscription : Subscription}
      {error : StoreError} {flight : Dossier}
      (begins : Begins .wild start record begun subscription)
      (counted : begun.attempts = record.attempts + 1) (inFlight : begun.status = .processing)
      (kept : flight.record = some begun)
      (closed : ended.status = .successful ∨ ended.status = .failed)
      (fault : operations.EndsOn (.store (.saveDelivery ended)) (.error error)) :
      Breaks id start since operations (.ofStore error) flight
  | unrecovered {record failed : DeliveryRecord} {error : StoreError}
      (stored : start.record = some record) (inFlight : record.status = .processing)
      (closed : failed.status = .failed)
      (fault : operations.EndsOn (.store (.saveDelivery failed)) (.error error)) :
      Breaks id start since operations (.ofStore error) start
  | unqueued {record failed : DeliveryRecord} {subscription : Subscription} {delay : Duration}
      {reason : String} {flight : Dossier} {failure : DeliveryError} {now : Instant}
      (ends : Ends .wild start since flight record failed subscription failure now)
      (finds : operations.Finds failed.subscriptionId subscription)
      (able : failed.canAttempt subscription.maxAttempts = true)
      (fault : operations.EndsOn (.queue (.enqueue ⟨id, delay⟩)) (.error (.queue reason))) :
      Breaks id start since operations (.queue reason) (flight.saved failed)

/-- How a call settles: it breaks down as it may, or it skips a delivery that it has only looked at, or
it makes an attempt. -/
def Settles (id : Uuid) (start : Dossier) (since : Instant)
    (operations : Operations) : Except DeliveryError Outcome → Dossier → Prop
  | .error error, dossier => Breaks id start since operations error dossier
  | .ok (.skipped _), dossier => operations.Looked ∧ dossier = start
  | .ok _, _ => True

/-- Where nothing stops the count, an attempt that begins is one more. -/
theorem Attempt.Begins.counted {start : Dossier} {record begun : DeliveryRecord}
    {subscription : Subscription} (begins : Begins .wild start record begun subscription)
    (countable : start.Countable) : begun.attempts = record.attempts + 1 := by
  have bounded := begins.offered subscription rfl
  obtain ⟨able, rfl⟩ := DeliveryRecord.beginAttempt_eq_ok begins.begins
  apply Nat.min_eq_left
  unfold DeliveryRecord.canAttempt at able
  split at able
  · rename_i fresh
    exact countable record begins.stored fresh
  · exact Nat.le_trans (of_decide_eq_true able) bounded
  · cases able
  · cases able

namespace Dispatch

variable {policy : RetryPolicy} {id : Uuid} {start flight dossier : Dossier} {since : Instant}
  {met after : Site} {point next : Point} {past : Operations} {effect : Effect} {reply : effect.Reply}

/-- The owner that has been looked up by a point, and the subscription that was found. -/
def Point.found? : Point → Option (Uuid × Subscription)
  | eligible subscription record .. => some (record.subscriptionId, subscription)
  | begun attempt | ready attempt | answered attempt _ =>
    some (attempt.record.subscriptionId, attempt.subscription)
  | refused flight => some (flight.record.subscriptionId, flight.subscription)
  | failing failure | failed failure | charged failure | retrying failure _ =>
    some (failure.record.subscriptionId, failure.subscription)
  | _ => none

private theorem finds_of_goes (goes : Point.Goes policy point effect reply next) {owner : Uuid}
    {subscription : Subscription}
    (finds : ∀ owner subscription, point.found? = some (owner, subscription) →
      past.Finds owner subscription) (found : next.found? = some (owner, subscription)) :
    Operations.Finds (past ++ [⟨effect, met, reply, after⟩]) owner subscription := by
  cases goes with
  | interrupted subscription inFlight => cases found; exact .last _ _ _ _ _
  | admits subscription landed active able => cases found; exact .last _ _ _ _ _
  | begins prepared begins signed => cases found; exact (finds _ _ rfl).later _
  | readies => cases found; exact (finds _ _ rfl).later _
  | sends answer => cases found; exact (finds _ _ rfl).later _
  | @refuses attempt =>
    cases found
    exact attempt.owner ▸ (finds _ _ rfl).later _
  | notices now fails => cases found; exact (finds _ _ rfl).later _
  | fails => cases found; exact (finds _ _ rfl).later _
  | charges counted => cases found; exact (finds _ _ rfl).later _
  | retries decided => cases found; exact (finds _ _ rfl).later _
  | _ => cases found

private theorem eq_of_read {call : StoreCall} {met after : Site}
    {reply : Except StoreError call.Reply}
    (turn : Conditions.wild.Turn (.store call) met reply after) (silent : call.saved = [])
    (reads : ∀ store : MemoryStore, ∃ value, store.answer? call = some (.ok value, store)) :
    after = met := by
  rcases turn with ⟨store, answered, _, rfl⟩ | ⟨_, _, rfl⟩
  · obtain ⟨value, read⟩ := reads met.store
    cases read.symm.trans answered
    simp [silent]
  · rfl

/-- A call has come to a point, after these operations. -/
structure Comes (policy : RetryPolicy) (id : Uuid) (start : Dossier) (since : Instant)
    (point : Point) (past : Operations) (site : Site) : Prop where
  reaches : Reaches .wild policy id start since point site
  looked : (∃ record, point = .loaded record) ∨ (∃ id, point = .called id) → past.Looked
  finds : ∀ owner subscription, point.found? = some (owner, subscription) →
    past.Finds owner subscription
  settles : ∀ result, point = .ended result →
    Settles id start since past result (site.dossier id)

private theorem breaks_of_fails {record failed : DeliveryRecord} {subscription : Subscription}
    {failure : DeliveryError} {error : StoreError} (countable : start.Countable)
    (fails : Fails .wild start since flight record subscription failure)
    (closed : failed.status = .failed)
    (fault : past.EndsOn (.store (.saveDelivery failed)) (.error error)) :
    Breaks id start since past (.ofStore error) flight := by
  cases fails with
  | interrupted stored offered inFlight => exact .unrecovered stored inFlight closed fault
  | answered sends failed =>
    exact .unsettled sends.toBegins (sends.toBegins.counted countable) sends.toBegins.inFlight rfl
      (.inr closed) fault

private theorem settles_of_goes {result : Except DeliveryError Outcome} (filed : start.Filed id)
    (countable : start.Countable)
    (goes : Point.Goes policy point effect reply (.ended result))
    (turn : (Conditions.wild.around (· = id)).turn effect met reply after)
    (comes : Comes policy id start since point past met) :
    Settles id start since (past ++ [⟨effect, met, reply, after⟩]) result (after.dossier id) := by
  obtain ⟨⟨moment, dossier, stands, held⟩, looked, finds, _⟩ := comes
  have last : Operations.EndsOn (past ++ [⟨effect, met, reply, after⟩]) effect reply :=
    ⟨past, met, after, rfl⟩
  cases goes with
  | unread error =>
    cases held
    rw [(stands.quiet turn nofun).dossier]
    exact .unread last
  | missing =>
    cases held
    rw [(stands.quiet turn nofun).dossier]
    exact .missing (stands.found turn)
  | unowned error =>
    cases held with
    | loaded stored =>
      rw [(stands.quiet turn nofun).dossier]
      exact .unowned stored last
  | orphaned =>
    cases held with
    | loaded stored =>
      rw [(stands.quiet turn nofun).dossier]
      exact .orphaned stored last
  | inactive subscription landed inactive =>
    cases held
    have still : after = met := eq_of_read turn.1 rfl fun store => ⟨_, rfl⟩
    exact ⟨(looked (.inl ⟨_, rfl⟩)).later still ⟨_, .inr rfl⟩, (stands.quiet turn nofun).dossier⟩
  | ineligible subscription landed active unable =>
    cases held
    have still : after = met := eq_of_read turn.1 rfl fun store => ⟨_, rfl⟩
    exact ⟨(looked (.inl ⟨_, rfl⟩)).later still ⟨_, .inr rfl⟩, (stands.quiet turn nofun).dossier⟩
  | unsigned prepared refused =>
    cases held with
    | eligible stored offered =>
      rw [(stands.quiet turn nofun).dossier]
      exact .unsigned stored ((finds _ _ rfl).later _) refused
  | unbegun error =>
    cases held with
    | begun begins =>
      rw [(stands.unsaved turn).2.dossier]
      exact .unbegun begins last
  | @unsucceeded success =>
    cases held with
    | accepted succeeds =>
      have closed : success.succeeded.status = .successful := by
        rw [(DeliveryRecord.succeed_eq_ok success.succeeds).2]
      rw [(stands.unsaved turn).2.dossier]
      exact .unsettled succeeds.toBegins (succeeds.toBegins.counted countable)
        succeeds.toBegins.inFlight rfl (.inl closed) last
  | delivers => trivial
  | @unfailed failure =>
    cases held with
    | failing ends =>
      rw [(stands.unsaved turn).2.dossier]
      exact breaks_of_fails countable ends.fails failure.status last
  | @unqueued failure =>
    cases held with
    | retrying retries =>
      obtain ⟨reason, rfl, _, stands⟩ := stands.unscheduled turn
      obtain ⟨draw, decided⟩ := retries.decided
      have able : failure.failed.canAttempt failure.subscription.maxAttempts = true := by
        rw [DeliveryRecord.canAttempt, failure.status]
        exact decide_eq_true (RetryPolicy.decide?_eq_retry decided).1
      have named := retries.named filed
      subst named
      rw [stands.dossier]
      refine .unqueued retries.toEnds ?_ able last
      rw [failure.owner]
      exact (finds _ _ rfl).later _
  | announces => trivial
  | reports => trivial

private theorem Comes.turn (filed : start.Filed id) (countable : start.Countable)
    (goes : Point.Goes policy point effect reply next)
    (turn : (Conditions.wild.around (· = id)).turn effect met reply after)
    (comes : Comes policy id start since point past met) :
    Comes policy id start since next (past ++ [⟨effect, met, reply, after⟩]) after where
  reaches := comes.reaches.turn filed goes turn
  looked := by
    rintro (⟨record, rfl⟩ | ⟨id, rfl⟩)
    · cases goes with
      | loads record =>
        have still : after = met := eq_of_read turn.1 rfl fun store => ⟨_, rfl⟩
        exact (comes.looked (.inr ⟨_, rfl⟩)).later still ⟨_, .inl rfl⟩
    · cases goes
  finds owner subscription := finds_of_goes goes comes.finds
  settles := by
    rintro result rfl
    exact settles_of_goes filed countable goes turn comes

theorem process_settles {result : Except DeliveryError Outcome} {operations : Operations}
    (filed : start.Filed id) (countable : start.Countable)
    (stands : Conditions.wild.Stands id since start met)
    (run : (process policy id).result.Traced (Conditions.wild.around (· = id)) met operations
      result after) : Settles id start since operations result (after.dossier id) := by
  have called : Comes policy id start since (.called id) [] met :=
    ⟨⟨since, start, stands, .called⟩, fun _ => List.forall_mem_nil _, nofun, nofun⟩
  refine ((governs_process policy id).traced run called ?_ ?_).settles result rfl
  · intro point past site met drift ⟨⟨moment, dossier, stands, held⟩, looked, finds, settles⟩
    exact ⟨⟨moment, dossier, stands.drift drift rfl, held⟩, looked, finds,
      drift.1 id rfl ▸ settles⟩
  · exact fun _ _ _ _ _ _ _ goes turn comes => comes.turn filed countable goes turn

end Dispatch

/-! ### Which errors come out -/

private theorem append_ne {first second : String} (rest other : String)
    (room : 9 ≤ first.toList.length ∧ 9 ≤ second.toList.length)
    (apart : first.toList.take 9 ≠ second.toList.take 9) : first ++ rest ≠ second ++ other := by
  intro same
  have opening : (first ++ rest).toList.take 9 = (second ++ other).toList.take 9 := by rw [same]
  simp only [String.toList_append, List.take_append_of_le_length, room] at opening
  exact apart opening

private theorem append_assoc_three (first second third fourth : String) :
    first ++ second ++ third ++ fourth = first ++ (second ++ (third ++ fourth)) := by
  rw [String.append_assoc, String.append_assoc]

/-- No other error of a store reads like a transition that is not allowed. -/
theorem StoreError.eq_invalidTransition {error : StoreError} {transition : InvalidTransition}
    (same : error.message = (invalidTransition transition).message) :
    ∃ other, error = .invalidTransition other := by
  have spelled : error.message = "Invalid delivery transition: " ++ (transition.source.text ++
      (" -> " ++ transition.target.text)) := same.trans (append_assoc_three _ _ _ _)
  cases error with
  | invalidTransition other => exact ⟨other, rfl⟩
  | database reason => exact absurd spelled (append_ne _ _ (by decide) (by decide))
  | notFound what => exact absurd spelled (append_ne _ _ (by decide) (by decide))
  | constraintViolation reason => exact absurd spelled (append_ne _ _ (by decide) (by decide))
  | invalidInput reason => exact absurd spelled (append_ne _ _ (by decide) (by decide))

namespace Breaks

variable {id : Uuid} {start dossier : Dossier} {since : Instant} {operations : Operations}
  {error : DeliveryError}

theorem not_retryable (breaks : Breaks id start since operations error dossier) :
    error.isRetryable = false := by
  cases breaks with
  | missing absent => rfl
  | orphaned stored unknown => rfl
  | unread fault => rfl
  | unowned stored fault => rfl
  | unsigned stored finds refused => rfl
  | unbegun begins fault => rfl
  | unsettled begins counted inFlight kept closed fault => rfl
  | unrecovered stored inFlight closed fault => rfl
  | unqueued ends finds able fault => rfl

private theorem blames {call : StoreCall} {cause : StoreError} {transition : InvalidTransition}
    (fault : operations.EndsOn (.store call) (.error cause))
    (same : DeliveryError.ofStore cause = .ofStore (.invalidTransition transition)) :
    operations.BlamesStore := by
  obtain ⟨other, rfl⟩ := StoreError.eq_invalidTransition (DeliveryError.storage.inj same)
  obtain ⟨earlier, met, after, rfl⟩ := fault
  exact ⟨call, met, after, other, List.mem_append_right _ List.mem_cons_self⟩

/-- A call asks for no transition that is not allowed. -/
theorem blamesStore {transition : InvalidTransition}
    (breaks : Breaks id start since operations error dossier)
    (invalid : error = .ofStore (.invalidTransition transition)) : operations.BlamesStore := by
  cases breaks with
  | missing absent => cases invalid
  | orphaned stored unknown => cases invalid
  | unread fault => exact blames fault invalid
  | unowned stored fault => exact blames fault invalid
  | unsigned stored finds refused => cases invalid
  | unbegun begins fault => exact blames fault invalid
  | unsettled begins counted inFlight kept closed fault => exact blames fault invalid
  | unrecovered stored inFlight closed fault => exact blames fault invalid
  | unqueued ends finds able fault => cases invalid

end Breaks

namespace Dispatch

/-- A call that ends in an error breaks down as it may, with no failure of an attempt and no transition
of its own for a cause; one that skips its delivery has done nothing but look. -/
theorem process_breaks {policy : RetryPolicy} {id : Uuid} {site after : Site}
    {operations : Operations} {result : Except DeliveryError Outcome}
    (meets : Conditions.wild.Meets site) (filed : (site.dossier id).Filed id)
    (countable : (site.dossier id).Countable)
    (run : (process policy id).result.Traced (Conditions.wild.around (· = id)) site operations
      result after) :
    (∀ error, result = .error error → error.isRetryable = false ∧
      (∀ transition, error = .ofStore (.invalidTransition transition) → operations.BlamesStore) ∧
      Breaks id (site.dossier id) site.time operations error (after.dossier id)) ∧
    ∀ reason, result = .ok (.skipped reason) →
      operations.Looked ∧ after.dossier id = site.dossier id := by
  have settles : Settles id (site.dossier id) site.time operations result
      (after.dossier id) :=
    process_settles filed countable ⟨rfl, trivial, meets⟩ run
  constructor
  · rintro error rfl
    exact ⟨settles.not_retryable, fun transition => settles.blamesStore, settles⟩
  · rintro reason rfl
    exact settles

private abbrev untried : Site := .untried .ofOrders .null

/-- Attempts begin and are accepted, but no outcome can be saved. -/
private def forgetful : Program.World Relay Site :=
  Site.serveUnless (fun call _ => match call with
    | .saveDelivery record => record.status ≠ .processing
    | _ => false) (fun _ => .ok ⟨200, ""⟩) Site.fitting

theorem process_breaks_unsaved : ∃ operations error after,
    (process .standard ⟨0⟩).result.Traced (Conditions.wild.around (· = ⟨0⟩)) untried operations
      (.error error) after ∧ error.isRetryable = false ∧
    Breaks ⟨0⟩ (untried.dossier ⟨0⟩) untried.time operations error (after.dossier ⟨0⟩) ∧
    (after.dossier ⟨0⟩).record.map (fun record => (record.status, record.attempts)) =
      some (.processing, 1) := by
  have failed : ((process .standard ⟨0⟩).result.run forgetful untried).1 =
      some (.error (.ofStore (.database "connection reset"))) := by decide +kernel
  have held : ((((process .standard ⟨0⟩).result.run forgetful untried).2.dossier ⟨0⟩).record.map
      fun record => (record.status, record.attempts)) = some (.processing, 1) := by decide +kernel
  obtain ⟨operations, traced⟩ := Program.traced_of_run (fun effect state reply left served =>
    ⟨state, (Conditions.wild.around (· = ⟨0⟩)).drift_refl state,
      Site.turn_of_serveUnless trivial Site.meets_of_fitting served⟩) (Prod.ext failed rfl)
  have stored (record : DeliveryRecord) (found : untried.store.deliveries.find? ⟨0⟩ = some record) :
      record.id = ⟨0⟩ ∧ record.attempts = 0 := by
    obtain ⟨_, rfl⟩ := Site.find?_untried found
    exact ⟨rfl, rfl⟩
  have filed : (untried.dossier ⟨0⟩).Filed ⟨0⟩ := fun record found => (stored record found).1
  have countable : (untried.dossier ⟨0⟩).Countable := fun record found _ => by
    rw [(stored record found).2]
    exact Nat.zero_lt_succ _
  have breaks := (process_breaks (Site.meets_of_fitting _ (by decide +kernel)) filed countable
    traced).1 _ rfl
  exact ⟨operations, _, _, traced, breaks.1, breaks.2.2, held⟩

end Dispatch

end HookRelay
