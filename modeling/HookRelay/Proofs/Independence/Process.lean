import HookRelay.Proofs.Dispatch.Path
import HookRelay.Proofs.Independence.Verdict
import HookRelay.Proofs.Sweep

namespace HookRelay

open HookRelay.Action HookRelay.Dispatch

def MemoryStore.Filed (store : MemoryStore) : Prop :=
  ∀ id record, store.deliveries.find? id = some record → record.id = id

theorem MemoryStore.Filed.put {store : MemoryStore} (filed : store.Filed) (record : DeliveryRecord) :
    (store.putDelivery record).Filed :=
  Table.keyed_put store.deliveries filed rfl

namespace Deployment

/-- A receiver that goes by the request alone. -/
def replying (react : WireRequest → Exchange) : Program.World Wire Deployment :=
  fun (request : WireRequest) deployment => (some (react request), { deployment with receiver :=
    { deployment.receiver with log := deployment.receiver.log ++ [request] } })

/-- Answers an effect in front of such a receiver; draws come as they may. -/
def facing (react : WireRequest → Exchange) (draw : Deployment → Binary64) :
    Program.World Relay Deployment
  | .send request, deployment =>
    (Client.deliver deployment.client request).run (replying react) deployment
  | .drawJitter, deployment => (some (draw deployment), deployment)
  | effect, deployment => answer effect deployment

def books (deployment : Deployment) : Books :=
  ⟨deployment.store.deliveries.find?, deployment.store.subscriptions.find?,
    deployment.queue.slots.find?⟩

/-- No call is made to fail, no edit waits, and all that is stored is under its own id. -/
structure Calm (deployment : Deployment) : Prop where
  faultless : ∀ operation, deployment.store.faults.find? operation = none
  accepting : deployment.queue.fault = none
  unedited : deployment.awaitedEdit = none
  filed : deployment.store.Filed
  listed : deployment.store.Listed

end Deployment

structure Backdrop.Meets (backdrop : Backdrop) (deployment : Deployment) : Prop
    extends deployment.Calm where
  client : deployment.client = backdrop.client
  time : deployment.clock.now = backdrop.now

namespace Backdrop

variable {backdrop : Backdrop} {deployment : Deployment} {books left : Books} {effect : Effect}
  {reply : effect.Reply} {α : Type} {point next : Point}
  {ending : Option (Except DeliveryError Outcome × Books)}

def world (backdrop : Backdrop) : Program.World Relay Deployment :=
  Deployment.facing backdrop.react backdrop.draw

/-- An effect is answered, and the books are then as told. -/
def Answers (backdrop : Backdrop) (books : Books) (effect : Effect) (reply : effect.Reply)
    (left : Books) : Prop :=
  ∀ deployment, backdrop.Meets deployment → deployment.books = books →
    ∃ after, backdrop.world effect deployment = (some reply, after) ∧ backdrop.Meets after ∧
      after.books = left

/-- From a point on, the work ends with a result and these books, or is stopped. -/
def Leads (backdrop : Backdrop) (books : Books) (point : Point)
    (ending : Option (Except DeliveryError Outcome × Books)) : Prop :=
  ∀ deployment, backdrop.Meets deployment → deployment.books = books →
    ∃ after, point.Runs backdrop.policy backdrop.world deployment (ending.map Prod.fst, after) ∧
      ∀ result left, ending = some (result, left) → backdrop.Meets after ∧ after.books = left

theorem leads_over (result : Except DeliveryError Outcome) :
    backdrop.Leads books (.ended result) (some (result, books)) := by
  intro deployment meets shown
  refine ⟨deployment, Point.runs_ended result, fun result left same => ?_⟩
  cases same
  exact ⟨meets, shown⟩

theorem Answers.leads (answers : backdrop.Answers books effect reply left)
    (goes : Point.Goes backdrop.policy point effect reply next)
    (leads : backdrop.Leads left next ending) : backdrop.Leads books point ending := by
  intro deployment meets shown
  obtain ⟨after, answered, kept, written⟩ := answers deployment meets shown
  obtain ⟨last, runs, ends⟩ := leads after kept written
  exact ⟨last, goes.runs answered runs, ends⟩

/-! ### How effects are answered -/

theorem answers_now : backdrop.Answers books .now backdrop.now books := by
  intro deployment meets shown
  refine ⟨deployment, ?_, meets, shown⟩
  rw [← meets.time]
  exact Deployment.answer_now meets.unedited

/-- A draw decides nothing. -/
theorem leads_drawJitter (goes : ∀ draw, Point.Goes backdrop.policy point .drawJitter draw next)
    (leads : backdrop.Leads books next ending) : backdrop.Leads books point ending := by
  intro deployment meets shown
  obtain ⟨last, runs, ends⟩ := leads deployment meets shown
  have drawn : backdrop.world .drawJitter deployment =
    (some (backdrop.draw deployment), deployment) := rfl
  exact ⟨last, (goes _).runs drawn runs, ends⟩

theorem answers_publish (event : DeliveryEvent) :
    backdrop.Answers books (.publish event) () books := by
  intro deployment meets shown
  exact ⟨_, rfl, { meets with }, shown⟩

/-- A program on the wire is answered request by request, which only the receiver's log shows. -/
theorem run_replying (react : WireRequest → Exchange) (program : Program Wire α)
    (deployment : Deployment) : ∃ receiver, program.run (Deployment.replying react) deployment =
      (some (program.valueBy react), { deployment with receiver := receiver }) := by
  induction program generalizing deployment with
  | done value => exact ⟨deployment.receiver, rfl⟩
  | step request next ih => exact ih _ _

theorem answers_send (request : DeliveryRequest) :
    backdrop.Answers books (.send request) (backdrop.answerTo request) books := by
  intro deployment meets shown
  obtain ⟨receiver, run⟩ := run_replying backdrop.react
    (Client.deliver deployment.client request) deployment
  refine ⟨{ deployment with receiver := receiver }, ?_, { meets with }, shown⟩
  rw [answerTo, ← meets.client]
  exact run

theorem world_store (meets : backdrop.Meets deployment) (call : StoreCall) :
    backdrop.world (.store call) deployment = match deployment.store.answer? call with
      | some (reply, store) => (some reply, { deployment with store := store })
      | none => (none, deployment) :=
  Deployment.answer_store fun operation _ => meets.faultless operation

theorem answers_store {call : StoreCall} {reply : Except StoreError call.Reply}
    (answered : ∀ deployment, backdrop.Meets deployment → deployment.books = books →
      ∃ store, deployment.store.answer? call = some (reply, store) ∧
        backdrop.Meets { deployment with store := store } ∧
        { deployment with store := store }.books = left) :
    backdrop.Answers books (.store call) reply left := by
  intro deployment meets shown
  obtain ⟨store, answer, kept, written⟩ := answered deployment meets shown
  refine ⟨_, ?_, kept, written⟩
  rw [world_store meets, answer]
  rfl

theorem answers_findDelivery (id : Uuid) :
    backdrop.Answers books (.store (.findDelivery id)) (.ok (books.records id)) books :=
  answers_store fun deployment meets shown => ⟨deployment.store, by rw [← shown]; rfl, meets, shown⟩

theorem answers_findSubscription (id : Uuid) :
    backdrop.Answers books (.store (.findSubscription id)) (.ok (books.subscriptions id)) books :=
  answers_store fun deployment meets shown => ⟨deployment.store, by rw [← shown]; rfl, meets, shown⟩

theorem answers_saveDelivery {id : Uuid} {record : DeliveryRecord} (own : record.id = id)
    (present : (books.records id).isSome = true) :
    backdrop.Answers books (.store (.saveDelivery record)) (.ok ()) (books.save id record) := by
  subst own
  refine answers_store fun deployment meets shown =>
    ⟨deployment.store.putDelivery record, ?_, { meets with filed := meets.filed.put record }, ?_⟩
  · subst shown
    obtain ⟨stored, found⟩ := Option.isSome_iff_exists.mp present
    have known : deployment.store.deliveries.find? record.id = some stored := found
    simp only [MemoryStore.answer?, MemoryStore.saveDelivery, known]
    rfl
  · subst shown
    ext1
    · funext key
      exact Table.find?_put _ _ _ _
    · rfl
    · rfl

theorem answers_increment {id : Uuid} {counter : Counter} {held : Subscription}
    (found : books.subscriptions id = some held)
    (room : held.total counter < Counter.greatest) :
    backdrop.Answers books (.store (.increment id counter backdrop.now)) (.ok ())
      (books.count id counter backdrop.now) := by
  refine answers_store fun deployment meets shown => ?_
  subst shown
  have known : deployment.store.subscriptions.find? id = some held := found
  have own : held.id = id := meets.listed id held known
  refine ⟨deployment.store.putSubscription (held.counting counter backdrop.now), ?_,
    { meets with listed := ?_ }, ?_⟩
  · simp only [MemoryStore.answer?, MemoryStore.increment, known, Subscription.count?_eq,
      if_pos room]
    rfl
  · exact meets.listed.put rfl
  · ext1
    · rfl
    · funext key
      show (deployment.store.subscriptions.put _ _).find? key = _
      rw [Table.find?_put, Subscription.counting_id, own]
      by_cases same : key = id
      · simp [Books.count, same, found]
      · simp [Books.count, same, Deployment.books]
    · rfl

/-- A total that is full stops the work. -/
theorem leads_increment_full {id : Uuid} {counter : Counter} {held : Subscription}
    (does : point.does = some (.store (.increment id counter backdrop.now)))
    (found : books.subscriptions id = some held)
    (full : ¬held.total counter < Counter.greatest) : backdrop.Leads books point none := by
  intro deployment meets shown
  subst shown
  have known : deployment.store.subscriptions.find? id = some held := found
  have stopped : deployment.store.answer? (.increment id counter backdrop.now) = none := by
    simp only [MemoryStore.answer?, MemoryStore.increment, known, Subscription.count?_eq,
      if_neg full]
    rfl
  have silent : backdrop.world (.store (.increment id counter backdrop.now)) deployment =
      (none, deployment) := by
    rw [world_store meets, stopped]
  exact ⟨deployment, Point.runs_stopped does silent, fun _ _ ended => by cases ended⟩

theorem answers_enqueue {id : Uuid} {delay : Duration} {due : Instant}
    (reached : dueAt backdrop.now delay = .ok due) :
    backdrop.Answers books (.queue (.enqueue ⟨id, delay⟩)) (.ok ()) (books.schedule id due) := by
  intro deployment meets shown
  subst shown
  refine ⟨{ deployment with queue := { deployment.queue with
      slots := deployment.queue.slots.put id ⟨due, none⟩
      history := deployment.queue.history ++ [⟨id, delay⟩] } }, ?_, { meets with }, ?_⟩
  · show (some (deployment.queue.enqueue ⟨id, delay⟩ deployment.clock.now).1, _) = _
    simp only [MemoryQueue.enqueue, meets.accepting, meets.time, reached]
    rfl
  · ext1
    · rfl
    · rfl
    · funext key
      exact Table.find?_put _ _ _ _

theorem answers_enqueue_late {id : Uuid} {delay : Duration} {error : DeliveryError}
    (late : dueAt backdrop.now delay = .error error) :
    backdrop.Answers books (.queue (.enqueue ⟨id, delay⟩)) (.error error) books := by
  intro deployment meets shown
  refine ⟨deployment, ?_, meets, shown⟩
  show (some (deployment.queue.enqueue ⟨id, delay⟩ deployment.clock.now).1, _) = _
  simp only [MemoryQueue.enqueue, meets.accepting, meets.time, late]
  rfl

/-! ### How the work goes -/

section Work

variable {id : Uuid} {record : DeliveryRecord} {subscription held : Subscription}

theorem leads_count {counter : Counter}
    (does : point.does = some (.store (.increment subscription.id counter backdrop.now)))
    (goes : Point.Goes backdrop.policy point (.store (.increment subscription.id counter backdrop.now))
      (.ok ()) next) (found : books.subscriptions subscription.id = some held)
    (leads : backdrop.Leads (books.count subscription.id counter backdrop.now) next ending) :
    backdrop.Leads books point (if held.total counter < Counter.greatest then ending else none) := by
  split
  · rename_i room
    exact (answers_increment found room).leads goes leads
  · rename_i full
    exact leads_increment_full does found full

theorem leads_refused {flight : Flight} (own : flight.record.id = id)
    (present : (books.records id).isSome = true)
    (found : books.subscriptions flight.subscription.id = some held) :
    backdrop.Leads books (.refused flight)
      ((backdrop.afterFailure flight.subscription flight.record flight.failure).ending id
        backdrop.now books) := by
  obtain ⟨failed, ended⟩ := DeliveryRecord.fail_of_processing flight.inFlight
    flight.failure.statusCode? (Dispatch.failureText flight.failure) backdrop.now
  have named : failed.id = id := by rw [(DeliveryRecord.fail_eq_ok ended).2, ← own]
  rw [afterFailure, ended]
  dsimp only
  rw [Verdict.ending_written found]
  refine answers_now.leads (.notices _ ended) ?_
  refine (answers_saveDelivery named present).leads .fails ?_
  refine leads_count rfl (.charges _) found ?_
  rw [sequel]
  have decided (draw : Binary64) := RetryPolicy.decide?_of_plain backdrop.plain failed.attempts
    flight.subscription.maxAttempts draw
  cases decision : backdrop.policy.plainDecision failed.attempts flight.subscription.maxAttempts with
  | exhausted =>
    refine leads_drawJitter (fun draw => .exhausts ((decided draw).trans (congrArg some decision))) ?_
    exact (answers_publish _).leads .reports (leads_over _)
  | retry delay =>
    refine leads_drawJitter (fun draw => .retries ((decided draw).trans (congrArg some decision))) ?_
    subst named
    dsimp only
    cases reached : dueAt backdrop.now delay with
    | error error => exact (answers_enqueue_late reached).leads (.unqueued _) (leads_over _)
    | ok due =>
      refine (answers_enqueue reached).leads .queues ?_
      exact (answers_publish _).leads .announces (leads_over _)

theorem leads_accepted {success : Success} (told : success.now = backdrop.now)
    (own : success.begun.id = id) (present : (books.records id).isSome = true)
    (found : books.subscriptions success.subscription.id = some held) :
    backdrop.Leads books (.accepted success)
      ((backdrop.afterSuccess success.subscription success.begun success.response).ending id
        backdrop.now books) := by
  have succeeds := success.succeeds
  have named : success.succeeded.id = id := by
    rw [(DeliveryRecord.succeed_eq_ok success.succeeds).2, ← own]
  rw [told] at succeeds
  rw [afterSuccess, succeeds]
  dsimp only
  rw [Verdict.ending_written found]
  refine (answers_saveDelivery named present).leads .succeeds ?_
  refine leads_count (by rw [← told]; rfl) (by rw [← told]; exact .credits _) found ?_
  exact (answers_publish _).leads .delivers (leads_over _)

theorem leads_answered {attempt : Begun} {answer : Except DeliveryError DeliveryResponse}
    (own : attempt.begun.id = id) (present : (books.records id).isSome = true)
    (found : books.subscriptions attempt.subscription.id = some held) :
    backdrop.Leads books (.answered attempt answer)
      ((backdrop.afterAnswer attempt.subscription attempt.begun answer).ending id backdrop.now
        books) := by
  cases answer with
  | error failure =>
    refine answers_now.leads (.refuses _ rfl) ?_
    exact leads_refused own present found
  | ok response =>
    rw [afterAnswer]
    split
    · rename_i accepted
      obtain ⟨succeeded, succeeds⟩ := DeliveryRecord.succeed_of_processing attempt.inFlight
        response.code response.body backdrop.now
      refine answers_now.leads (.accepts _ accepted succeeds) ?_
      exact leads_accepted rfl own present found
    · rename_i refused
      refine answers_now.leads (.refuses _ (if_neg refused)) ?_
      exact leads_refused own present found

theorem leads_eligible {active : subscription.isActive = true}
    {able : record.canAttempt subscription.maxAttempts = true} (own : record.id = id)
    (present : (books.records id).isSome = true)
    (found : books.subscriptions subscription.id = some held) :
    backdrop.Leads books (.eligible subscription record active able)
      ((backdrop.afterAttempt subscription record).ending id backdrop.now books) := by
  rw [afterAttempt, if_neg (by simp [active]), if_neg (by simp [able])]
  dsimp only
  cases signed : Signature.signBytes (Json.canonical (enrich subscription record backdrop.now))
      subscription.secret with
  | error error =>
    dsimp only
    rw [Verdict.ending_idle]
    exact answers_now.leads (.unsigned _ signed) (leads_over _)
  | ok signature =>
    obtain ⟨begun, begins⟩ := DeliveryRecord.beginAttempt_of_canAttempt able
    have named : begun.id = id := by rw [(DeliveryRecord.beginAttempt_eq_ok begins).2, ← own]
    have stored : ((books.save id begun).records id).isSome = true := by simp [Books.save]
    rw [begins]
    dsimp only
    rw [Verdict.ending_continuing]
    refine answers_now.leads (.begins _ begins signed) ?_
    refine (answers_saveDelivery named present).leads .readies ?_
    refine (answers_send _).leads (.sends _) ?_
    exact leads_answered named stored found

end Work

/-- The work on a delivery comes to its verdict. -/
theorem leads_called (id : Uuid) :
    backdrop.Leads books (.called id) ((backdrop.verdict books id).ending id backdrop.now books) := by
  intro deployment meets shown
  subst shown
  refine (?_ : backdrop.Leads deployment.books _ _) deployment meets rfl
  have loaded : backdrop.Answers deployment.books (.store (.findDelivery id))
    (.ok (deployment.books.records id)) deployment.books := answers_findDelivery id
  unfold verdict
  cases stored : deployment.books.records id with
  | none =>
    rw [stored] at loaded
    dsimp only
    rw [Verdict.ending_idle]
    exact loaded.leads .missing (leads_over _)
  | some record =>
    rw [stored] at loaded
    have own : record.id = id := meets.filed id record stored
    have present : (deployment.books.records id).isSome = true := by rw [stored]; rfl
    refine loaded.leads (.loads record) ?_
    have owned : backdrop.Answers deployment.books
        (.store (.findSubscription record.subscriptionId))
        (.ok (deployment.books.subscriptions record.subscriptionId)) deployment.books :=
      answers_findSubscription record.subscriptionId
    dsimp only
    cases found : deployment.books.subscriptions record.subscriptionId with
    | none =>
      rw [found] at owned
      dsimp only
      rw [Verdict.ending_idle]
      exact owned.leads .orphaned (leads_over _)
    | some subscription =>
      rw [found] at owned
      rw [← meets.listed record.subscriptionId subscription found] at found
      dsimp only
      split
      · rename_i inFlight
        refine owned.leads (.interrupted subscription inFlight) ?_
        exact leads_refused own present found
      · rename_i landed
        cases active : subscription.isActive with
        | false =>
          rw [afterAttempt, if_pos (by simp [active]), Verdict.ending_idle]
          exact owned.leads (.inactive subscription landed active) (leads_over _)
        | true =>
          cases able : record.canAttempt subscription.maxAttempts with
          | false =>
            rw [afterAttempt, if_neg (by simp [active]), if_pos (by simp [able]),
              Verdict.ending_idle]
            exact owned.leads (.ineligible subscription landed active able) (leads_over _)
          | true =>
            refine owned.leads (.admits subscription landed active able) ?_
            exact leads_eligible own present found

end Backdrop

end HookRelay
