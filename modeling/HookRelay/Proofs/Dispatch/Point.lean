import HookRelay.Proofs.Action
import HookRelay.Proofs.Attempt

/-!
The work of `Dispatch.process`, point by point: what it does next at each point, and where each reply
takes it. Its program is followed through these points once, and what is to be shown of the program is
shown of the points.
-/
namespace HookRelay.Dispatch

open HookRelay.Action HookRelay.Attempt

/-- An attempt that has begun, and what its request is made of. -/
structure Begun where
  subscription : Subscription
  record : DeliveryRecord
  begun : DeliveryRecord
  prepared : Instant
  signature : String
  active : subscription.isActive = true
  begins : record.beginAttempt subscription.maxAttempts = .ok begun
  signed : Signature.signBytes (Json.canonical (enrich subscription record prepared))
    subscription.secret = .ok signature

/-- An attempt that was accepted, and its record afterwards. -/
structure Success extends Begun where
  response : DeliveryResponse
  now : Instant
  succeeded : DeliveryRecord
  accepted : response.isSuccess = true
  succeeds : begun.succeed response.code response.body now = .ok succeeded

/-- An attempt in flight that has failed. -/
structure Flight where
  subscription : Subscription
  record : DeliveryRecord
  failure : DeliveryError
  inFlight : record.status = .processing

/-- An attempt that has failed, and its record afterwards. -/
structure Failure extends Flight where
  now : Instant
  failed : DeliveryRecord
  fails : record.fail failure.statusCode? (failureText failure) now = .ok failed

namespace Begun

def request (attempt : Begun) : DeliveryRequest :=
  Dispatch.request attempt.subscription attempt.begun
    (Json.canonical (enrich attempt.subscription attempt.record attempt.prepared))
    attempt.signature attempt.prepared

theorem inFlight (attempt : Begun) : attempt.begun.status = .processing := by
  rw [(DeliveryRecord.beginAttempt_eq_ok attempt.begins).2]

theorem owner (attempt : Begun) : attempt.begun.subscriptionId = attempt.record.subscriptionId := by
  rw [(DeliveryRecord.beginAttempt_eq_ok attempt.begins).2]

def failing (attempt : Begun) (failure : DeliveryError) : Flight :=
  ⟨attempt.subscription, attempt.begun, failure, attempt.inFlight⟩

end Begun

namespace Failure

theorem owner (failure : Failure) : failure.failed.subscriptionId = failure.record.subscriptionId := by
  rw [(DeliveryRecord.fail_eq_ok failure.fails).2]

theorem status (failure : Failure) : failure.failed.status = .failed := by
  rw [(DeliveryRecord.fail_eq_ok failure.fails).2]

end Failure

/-- How an answer fails an attempt, if it does. -/
def failure? : Except DeliveryError DeliveryResponse → Option DeliveryError
  | .error failure => some failure
  | .ok response =>
    if response.isSuccess then none else some (.receiver response.code response.body)

/-- Where the work on a delivery is. -/
inductive Point where
  | called (id : Uuid)
  | loaded (record : DeliveryRecord)
  | eligible (subscription : Subscription) (record : DeliveryRecord)
      (active : subscription.isActive = true)
      (able : record.canAttempt subscription.maxAttempts = true)
  | begun (attempt : Begun)
  | ready (attempt : Begun)
  | answered (attempt : Begun) (answer : Except DeliveryError DeliveryResponse)
  | accepted (success : Success)
  | succeeded (success : Success)
  | credited (success : Success)
  | refused (flight : Flight)
  | failing (failure : Failure)
  | failed (failure : Failure)
  | charged (failure : Failure)
  | retrying (failure : Failure) (delay : Duration)
  | retried (failure : Failure) (delay : Duration)
  | exhausted (failure : Failure)
  | undecided
  | ended (result : Except DeliveryError Outcome)

def Point.does : Point → Option Effect
  | called id => some (.store (.findDelivery id))
  | loaded record => some (.store (.findSubscription record.subscriptionId))
  | eligible .. => some .now
  | begun attempt => some (.store (.saveDelivery attempt.begun))
  | ready attempt => some (.send attempt.request)
  | answered .. => some .now
  | accepted success => some (.store (.saveDelivery success.succeeded))
  | succeeded success => some (.store (.increment success.subscription.id .success success.now))
  | credited success => some (.publish (successEvent success.subscription success.begun
      success.succeeded success.response success.now))
  | refused _ => some .now
  | failing failure => some (.store (.saveDelivery failure.failed))
  | failed failure => some (.store (.increment failure.subscription.id .failure failure.now))
  | charged _ => some .drawJitter
  | retrying failure delay => some (.queue (.enqueue ⟨failure.failed.id, delay⟩))
  | retried failure delay => some (.publish (failureEvent failure.subscription failure.record
      failure.failed failure.failure delay failure.now))
  | exhausted failure => some (.publish (exhaustionEvent failure.subscription failure.failed
      failure.failure failure.now))
  | undecided => some .halt
  | ended _ => none

/-- Where a reply takes the work. -/
inductive Point.Goes (policy : RetryPolicy) :
    Point → (effect : Effect) → effect.Reply → Point → Prop where
  | unread {id : Uuid} (error : StoreError) :
      Goes policy (.called id) (.store (.findDelivery id)) (.error error)
        (.ended (.error (.ofStore error)))
  | missing {id : Uuid} :
      Goes policy (.called id) (.store (.findDelivery id)) (.ok none)
        (.ended (.error (.deliveryNotFound id)))
  | loads {id : Uuid} (record : DeliveryRecord) :
      Goes policy (.called id) (.store (.findDelivery id)) (.ok (some record)) (.loaded record)
  | unowned {record : DeliveryRecord} (error : StoreError) :
      Goes policy (.loaded record) (.store (.findSubscription record.subscriptionId)) (.error error)
        (.ended (.error (.ofStore error)))
  | orphaned {record : DeliveryRecord} :
      Goes policy (.loaded record) (.store (.findSubscription record.subscriptionId)) (.ok none)
        (.ended (.error (.subscriptionNotFound record.subscriptionId)))
  | interrupted {record : DeliveryRecord} (subscription : Subscription)
      (inFlight : record.status = .processing) :
      Goes policy (.loaded record) (.store (.findSubscription record.subscriptionId))
        (.ok (some subscription))
        (.refused ⟨subscription, record, .interrupted record.attempts, inFlight⟩)
  | inactive {record : DeliveryRecord} (subscription : Subscription)
      (landed : record.status ≠ .processing) (inactive : subscription.isActive = false) :
      Goes policy (.loaded record) (.store (.findSubscription record.subscriptionId))
        (.ok (some subscription)) (.ended (.ok (.skipped (.subscriptionInactive subscription.status))))
  | ineligible {record : DeliveryRecord} (subscription : Subscription)
      (landed : record.status ≠ .processing) (active : subscription.isActive = true)
      (unable : record.canAttempt subscription.maxAttempts = false) :
      Goes policy (.loaded record) (.store (.findSubscription record.subscriptionId))
        (.ok (some subscription)) (.ended (.ok (.skipped (.notEligible record.status))))
  | admits {record : DeliveryRecord} (subscription : Subscription)
      (landed : record.status ≠ .processing) (active : subscription.isActive = true)
      (able : record.canAttempt subscription.maxAttempts = true) :
      Goes policy (.loaded record) (.store (.findSubscription record.subscriptionId))
        (.ok (some subscription)) (.eligible subscription record active able)
  | unsigned {subscription : Subscription} {record : DeliveryRecord}
      {active : subscription.isActive = true}
      {able : record.canAttempt subscription.maxAttempts = true} (prepared : Instant)
      {error : SignatureError} (refused : Signature.signBytes (Json.canonical
        (enrich subscription record prepared)) subscription.secret = .error error) :
      Goes policy (.eligible subscription record active able) .now prepared
        (.ended (.error (.ofSignature error)))
  | begins {subscription : Subscription} {record : DeliveryRecord}
      {active : subscription.isActive = true}
      {able : record.canAttempt subscription.maxAttempts = true} (prepared : Instant)
      {begun : DeliveryRecord} {signature : String}
      (begins : record.beginAttempt subscription.maxAttempts = .ok begun)
      (signed : Signature.signBytes (Json.canonical (enrich subscription record prepared))
        subscription.secret = .ok signature) :
      Goes policy (.eligible subscription record active able) .now prepared
        (.begun ⟨subscription, record, begun, prepared, signature, active, begins, signed⟩)
  | unbegun {attempt : Begun} (error : StoreError) :
      Goes policy (.begun attempt) (.store (.saveDelivery attempt.begun)) (.error error)
        (.ended (.error (.ofStore error)))
  | readies {attempt : Begun} :
      Goes policy (.begun attempt) (.store (.saveDelivery attempt.begun)) (.ok ()) (.ready attempt)
  | sends {attempt : Begun} (answer : Except DeliveryError DeliveryResponse) :
      Goes policy (.ready attempt) (.send attempt.request) answer (.answered attempt answer)
  | accepts {attempt : Begun} {response : DeliveryResponse} (now : Instant)
      {succeeded : DeliveryRecord} (accepted : response.isSuccess = true)
      (succeeds : attempt.begun.succeed response.code response.body now = .ok succeeded) :
      Goes policy (.answered attempt (.ok response)) .now now
        (.accepted ⟨attempt, response, now, succeeded, accepted, succeeds⟩)
  | refuses {attempt : Begun} {answer : Except DeliveryError DeliveryResponse}
      (completed : Instant) {failure : DeliveryError} (refused : failure? answer = some failure) :
      Goes policy (.answered attempt answer) .now completed (.refused (attempt.failing failure))
  | unsucceeded {success : Success} (error : StoreError) :
      Goes policy (.accepted success) (.store (.saveDelivery success.succeeded)) (.error error)
        (.ended (.error (.ofStore error)))
  | succeeds {success : Success} :
      Goes policy (.accepted success) (.store (.saveDelivery success.succeeded)) (.ok ())
        (.succeeded success)
  | credits {success : Success} (counted : Except StoreError Unit) :
      Goes policy (.succeeded success)
        (.store (.increment success.subscription.id .success success.now)) counted (.credited success)
  | delivers {success : Success} :
      Goes policy (.credited success) (.publish (successEvent success.subscription success.begun
        success.succeeded success.response success.now)) ()
        (.ended (.ok (.delivered success.response.code)))
  | notices {flight : Flight} (now : Instant) {failed : DeliveryRecord}
      (fails : flight.record.fail flight.failure.statusCode? (failureText flight.failure) now =
        .ok failed) : Goes policy (.refused flight) .now now (.failing ⟨flight, now, failed, fails⟩)
  | unfailed {failure : Failure} (error : StoreError) :
      Goes policy (.failing failure) (.store (.saveDelivery failure.failed)) (.error error)
        (.ended (.error (.ofStore error)))
  | fails {failure : Failure} :
      Goes policy (.failing failure) (.store (.saveDelivery failure.failed)) (.ok ())
        (.failed failure)
  | charges {failure : Failure} (counted : Except StoreError Unit) :
      Goes policy (.failed failure)
        (.store (.increment failure.subscription.id .failure failure.now)) counted (.charged failure)
  | hesitates {failure : Failure} {draw : Binary64} (undecided : policy.decide? failure.failed.attempts
        failure.subscription.maxAttempts draw = none) :
      Goes policy (.charged failure) .drawJitter draw .undecided
  | retries {failure : Failure} {draw : Binary64} {delay : Duration}
      (decided : policy.decide? failure.failed.attempts failure.subscription.maxAttempts draw =
        some (.retry delay)) :
      Goes policy (.charged failure) .drawJitter draw (.retrying failure delay)
  | exhausts {failure : Failure} {draw : Binary64} (decided : policy.decide? failure.failed.attempts
        failure.subscription.maxAttempts draw = some .exhausted) :
      Goes policy (.charged failure) .drawJitter draw (.exhausted failure)
  | unqueued {failure : Failure} {delay : Duration} (error : DeliveryError) :
      Goes policy (.retrying failure delay) (.queue (.enqueue ⟨failure.failed.id, delay⟩))
        (.error error) (.ended (.error error))
  | queues {failure : Failure} {delay : Duration} :
      Goes policy (.retrying failure delay) (.queue (.enqueue ⟨failure.failed.id, delay⟩))
        (.ok ()) (.retried failure delay)
  | announces {failure : Failure} {delay : Duration} :
      Goes policy (.retried failure delay) (.publish (failureEvent failure.subscription
        failure.record failure.failed failure.failure delay failure.now)) ()
        (.ended (.ok (.retryScheduled failure.record.attempts delay)))
  | reports {failure : Failure} :
      Goes policy (.exhausted failure) (.publish (exhaustionEvent failure.subscription
        failure.failed failure.failure failure.now)) ()
        (.ended (.ok (.exhausted failure.failed.attempts)))

/-- A program does the work from a point on. -/
inductive Point.Governs (policy : RetryPolicy) :
    Point → Program Relay (Except DeliveryError Outcome) → Prop where
  | ended (result : Except DeliveryError Outcome) : Governs policy (.ended result) (.done result)
  | step {point : Point} {effect : Effect}
      {next : effect.Reply → Program Relay (Except DeliveryError Outcome)}
      (does : point.does = some effect) (after : effect.Reply → Point)
      (goes : ∀ reply, Goes policy point effect reply (after reply))
      (rest : ∀ reply, Governs policy (after reply) (next reply)) :
      Governs policy point (.step effect next)

namespace Point

variable {policy : RetryPolicy} {point : Point}

theorem governs_step {effect : Effect}
    {next : effect.Reply → Program Relay (Except DeliveryError Outcome)}
    (does : point.does = some effect)
    (follows : ∀ reply, ∃ after, Goes policy point effect reply after ∧
      after.Governs policy (next reply)) : point.Governs policy (.step effect next) :=
  .step does (fun reply => (follows reply).choose) (fun reply => (follows reply).choose_spec.1)
    fun reply => (follows reply).choose_spec.2

theorem governs_store {call : StoreCall} {next : call.Reply → Action Outcome}
    (does : point.does = some (.store call))
    (fails : ∀ error, Goes policy point (.store call) (.error error)
      (.ended (.error (.ofStore error))))
    (follows : ∀ value, ∃ after, Goes policy point (.store call) (.ok value) after ∧
      after.Governs policy (next value).result) :
    point.Governs policy (Action.store call >>= next).result := by
  rw [result_store_bind]
  refine governs_step does fun reply => ?_
  cases reply with
  | ok value => exact follows value
  | error error => exact ⟨_, fails error, .ended _⟩

theorem governs_queue {call : QueueCall} {next : call.Reply → Action Outcome}
    (does : point.does = some (.queue call))
    (fails : ∀ error, Goes policy point (.queue call) (.error error) (.ended (.error error)))
    (follows : ∀ value, ∃ after, Goes policy point (.queue call) (.ok value) after ∧
      after.Governs policy (next value).result) :
    point.Governs policy (Action.queue call >>= next).result := by
  rw [result_queue_bind]
  refine governs_step does fun reply => ?_
  cases reply with
  | ok value => exact follows value
  | error error => exact ⟨_, fails error, .ended _⟩

end Point

open Point

theorem governs_settleFailure (policy : RetryPolicy) (flight : Flight) :
    (Point.refused flight).Governs policy
      (settleFailure policy flight.subscription flight.record flight.failure).result := by
  unfold settleFailure
  rw [result_perform_bind]
  refine governs_step rfl fun (now : Instant) => ?_
  obtain ⟨failed, ended⟩ := DeliveryRecord.fail_of_processing flight.inFlight
    flight.failure.statusCode? (failureText flight.failure) now
  refine ⟨_, .notices now ended, ?_⟩
  rw [result_transition_bind, ended]
  refine governs_store rfl .unfailed fun _ => ⟨_, .fails, ?_⟩
  rw [result_count_bind]
  refine governs_step rfl fun counted => ⟨_, .charges counted, ?_⟩
  rw [result_decide_bind]
  refine governs_step rfl fun draw => ?_
  cases decided : policy.decide? failed.attempts flight.subscription.maxAttempts draw with
  | none => exact ⟨_, .hesitates decided, governs_step rfl nofun⟩
  | some decision =>
    cases decision with
    | exhausted => exact ⟨_, .exhausts decided, governs_step rfl fun _ => ⟨_, .reports, .ended _⟩⟩
    | retry delay =>
      refine ⟨_, .retries decided, ?_⟩
      refine governs_queue rfl .unqueued fun _ => ⟨_, .queues, ?_⟩
      exact governs_step rfl fun _ => ⟨_, .announces, .ended _⟩

theorem governs_settleSuccess (policy : RetryPolicy) (success : Success) :
    (Point.accepted success).Governs policy
      (settleSuccess success.subscription success.begun success.response success.now).result := by
  unfold settleSuccess
  rw [result_transition_bind, success.succeeds]
  refine governs_store rfl .unsucceeded fun _ => ⟨_, .succeeds, ?_⟩
  rw [result_count_bind]
  refine governs_step rfl fun counted => ⟨_, .credits counted, ?_⟩
  exact governs_step rfl fun _ => ⟨_, .delivers, .ended _⟩

theorem governs_attempt (policy : RetryPolicy) {subscription : Subscription}
    {record : DeliveryRecord} (active : subscription.isActive = true)
    (able : record.canAttempt subscription.maxAttempts = true) :
    (Point.eligible subscription record active able).Governs policy
      (attempt policy subscription record).result := by
  rw [attempt, if_neg (by simp [active]), if_neg (by simp [able]), result_perform_bind]
  refine governs_step rfl fun (prepared : Instant) => ?_
  rw [result_ofExcept_bind]
  cases signed : Signature.signBytes (Json.canonical (enrich subscription record prepared))
      subscription.secret with
  | error error => exact ⟨_, .unsigned prepared signed, .ended _⟩
  | ok signature =>
    obtain ⟨begun, begins⟩ := DeliveryRecord.beginAttempt_of_canAttempt able
    let attempt : Begun := ⟨subscription, record, begun, prepared, signature, active, begins, signed⟩
    refine ⟨_, .begins prepared begins signed, ?_⟩
    dsimp only [Except.mapError]
    rw [result_transition_bind, begins]
    refine governs_store rfl .unbegun fun _ => ⟨_, .readies, ?_⟩
    rw [result_perform_bind]
    refine governs_step rfl fun answer => ⟨_, .sends answer, ?_⟩
    rw [result_perform_bind]
    refine governs_step rfl fun (completed : Instant) => ?_
    cases answer with
    | error failure =>
      exact ⟨_, .refuses completed rfl, governs_settleFailure policy (attempt.failing failure)⟩
    | ok response =>
      dsimp only
      split
      · rename_i accepted
        obtain ⟨succeeded, succeeds⟩ := DeliveryRecord.succeed_of_processing attempt.inFlight
          response.code response.body completed
        let success : Success := ⟨attempt, response, completed, succeeded, accepted, succeeds⟩
        exact ⟨_, .accepts completed accepted succeeds, governs_settleSuccess policy success⟩
      · rename_i refused
        exact ⟨_, .refuses completed (if_neg refused),
          governs_settleFailure policy (attempt.failing _)⟩

/-- The work on a delivery goes through its points. -/
theorem governs_process (policy : RetryPolicy) (id : Uuid) :
    (Point.called id).Governs policy (process policy id).result := by
  unfold process
  refine governs_store rfl .unread fun found => ?_
  cases found with
  | none => exact ⟨_, .missing, .ended _⟩
  | some record =>
    refine ⟨_, .loads record, governs_store rfl .unowned fun found => ?_⟩
    cases found with
    | none => exact ⟨_, .orphaned, .ended _⟩
    | some subscription =>
      dsimp only
      split
      · rename_i inFlight
        exact ⟨_, .interrupted subscription inFlight, governs_settleFailure policy
          ⟨subscription, record, .interrupted record.attempts, inFlight⟩⟩
      · rename_i landed
        cases active : subscription.isActive with
        | false =>
          refine ⟨_, .inactive subscription landed active, ?_⟩
          rw [attempt, if_pos (by simp [active])]
          exact .ended _
        | true =>
          cases able : record.canAttempt subscription.maxAttempts with
          | false =>
            refine ⟨_, .ineligible subscription landed active able, ?_⟩
            rw [attempt, if_neg (by simp [active]), if_pos (by simp [able])]
            exact .ended _
          | true =>
            exact ⟨_, .admits subscription landed active able, governs_attempt policy active able⟩

/-! ### Rules -/

namespace Point

variable {policy : RetryPolicy} {point : Point} {σ : Type} {around : Surroundings Relay σ}
  {guard : Effect → σ → Prop} {post : Except DeliveryError Outcome → σ → Prop}

/-- What holds at the first point and is kept from point to point tells how the program behaves. -/
theorem Governs.heeds {holds : Point → σ → Prop}
    {program : Program Relay (Except DeliveryError Outcome)} {state : σ}
    (governs : point.Governs policy program) (start : holds point state)
    (drifts : ∀ point state met, around.drift state met → holds point state → holds point met)
    (guards : ∀ point effect state, point.does = some effect → holds point state →
      guard effect state)
    (turns : ∀ point effect reply next state after, Goes policy point effect reply next →
      around.turn effect state reply after → holds point state → holds next after)
    (ends : ∀ result state, holds (.ended result) state → post result state) :
    program.Heeds around guard post state := by
  induction governs generalizing state with
  | ended result => exact ends result state start
  | step does after goes rest ih =>
    intro met drift
    have held := drifts _ _ _ drift start
    exact ⟨guards _ _ _ does held, fun reply left turn =>
      ih reply (turns _ _ _ _ _ _ (goes reply) turn held)⟩

/-- Where every reply leads to a goal or keeps what holds from point to point, and nothing stops the
program, the goal is reached. -/
theorem Governs.attains {holds : Point → σ → Prop} {stops : Effect → σ → Prop} {goal : σ → Prop}
    {program : Program Relay (Except DeliveryError Outcome)} {state : σ}
    (governs : point.Governs policy program) (start : holds point state)
    (drifts : ∀ point state met, around.drift state met → holds point state → holds point met)
    (goesOn : ∀ point effect state, point.does = some effect → holds point state →
      ¬stops effect state)
    (turns : ∀ point effect reply next state after, Goes policy point effect reply next →
      around.turn effect state reply after → holds point state → goal after ∨ holds next after)
    (ends : ∀ result state, holds (.ended result) state → goal state) :
    program.Attains around stops goal state := by
  induction governs generalizing state with
  | ended result => exact ends result state start
  | step does after goes rest ih =>
    refine Or.inr fun met drift => ?_
    have held := drifts _ _ _ drift start
    refine ⟨goesOn _ _ _ does held, fun reply left turn => ?_⟩
    rcases turns _ _ _ _ _ _ (goes reply) turn held with reached | held
    · exact .of_goal reached
    · exact ih reply held

theorem Governs.traced {holds : Point → List (Program.Moment Relay σ) → σ → Prop}
    {program : Program Relay (Except DeliveryError Outcome)} {state last : σ}
    {past trace : List (Program.Moment Relay σ)} {result : Except DeliveryError Outcome}
    (governs : point.Governs policy program) (run : program.Traced around state trace result last)
    (start : holds point past state)
    (drifts : ∀ point past state met, around.drift state met → holds point past state →
      holds point past met)
    (turns : ∀ point effect reply next past state after, Goes policy point effect reply next →
      around.turn effect state reply after → holds point past state →
      holds next (past ++ [⟨effect, state, reply, after⟩]) after) :
    holds (.ended result) (past ++ trace) last := by
  induction governs generalizing past state trace with
  | ended result =>
    cases run
    rwa [List.append_nil]
  | step does after goes rest ih =>
    cases run with
    | @step _ _ _ met left _ reply _ _ drift turn further =>
      have held := turns _ _ _ _ _ _ _ (goes reply) turn (drifts _ _ _ _ drift start)
      have ended := ih reply further held
      rwa [List.append_assoc] at ended

end Point

end HookRelay.Dispatch
