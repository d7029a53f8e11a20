import HookRelay.Http.Client
import HookRelay.Proofs.Dispatch.Path
import HookRelay.Proofs.Payload
import HookRelay.Proofs.Signature
import HookRelay.Sweep

/-!
What programs of the relay do in view of what they have been told: a trail keeps all effects so far with
their replies, whatever those are. A request is sent only for an attempt that was loaded and begun just
before, and it is authentic; nothing is saved that has another payload than what was loaded.
-/
namespace HookRelay

open HookRelay.Action

/-- A request is what its receiver takes it to be: an enriched payload, signed with the current secret
of its subscription at the time that it shows. -/
structure DeliveryRequest.Authentic (request : DeliveryRequest) (subscription : Subscription)
    (record : DeliveryRecord) (now : Instant) : Prop where
  body : request.body = Json.canonical (enrich subscription record now)
  signed : Signature.signBytes request.body subscription.secret = .ok request.signature
  verifies : Signature.verifyBytes request.body request.signature.toList subscription.secret = true
  timestamp : request.timestamp = now.seconds
  wired : ∀ settings wire, Client.prepare settings request = .ok wire →
    wire.body = some request.body ∧
      wire.headers.lookup signatureHeader = some request.signature ∧
      wire.headers.lookup timestampHeader = some (toString now.seconds)

/-- A request is that of an attempt whose delivery was loaded, and its subscription, before the clock was
read and the attempt saved, one right after the other. -/
structure DeliveryRequest.Attempts (request : DeliveryRequest) (past : List Answered) (id : Uuid)
    (record : DeliveryRecord) (subscription : Subscription) (now : Instant)
    (begun : DeliveryRecord) : Prop where
  follows : ∃ earlier, past = earlier ++ [.loaded id record,
    .subscribed record.subscriptionId subscription, .told now, .saved begun]
  begins : record.beginAttempt subscription.maxAttempts = .ok begun
  delivery : request.deliveryId = record.id
  number : request.attempt = begun.attempts
  authentic : request.Authentic subscription record now

/-- A record goes back to one that was loaded: it is of the same delivery, with the same payload. -/
def DeliveryRecord.StemsFrom (record : DeliveryRecord) (past : List Answered) : Prop :=
  ∃ id held, .loaded id held ∈ past ∧ held.id = record.id ∧ held.payload = record.payload

/-- What may be done after all that has been answered before. -/
def Proper (past : List Answered) : Effect → Prop
  | .send request => ∃ id record subscription now begun,
    request.Attempts past id record subscription now begun
  | .store (.saveDelivery record) => record.StemsFrom past
  | .store (.createDelivery record) => record.payload.normal = record.payload
  | _ => True

/-- A world that may reply anything, and of which nothing is kept but what it has answered. -/
def trail : Surroundings Relay (List Answered) where
  drift := Eq
  turn effect past reply after := after = past ++ [⟨effect, reply⟩]
  breaksOff := True
  drift_refl _ := rfl
  drift_trans _ _ _ := Eq.trans

/-- Whatever it is told, a program does only what is proper. -/
def Program.Behaves {α : Type} (program : Program Relay α) (past : List Answered) : Prop :=
  program.Heeds trail (fun effect past => Proper past effect) (fun _ _ => True) past

variable {α β : Type} {past : List Answered} {subscription : Subscription}
  {record begun : DeliveryRecord} {policy : RetryPolicy}

theorem Program.behaves_done (value : α) (past : List Answered) :
    (.done value : Program Relay α).Behaves past := trivial

theorem Program.behaves_step {effect : Effect} {next : effect.Reply → Program Relay α}
    (proper : Proper past effect) (follows : ∀ reply, (next reply).Behaves (past ++ [⟨effect, reply⟩])) :
    (.step effect next : Program Relay α).Behaves past := by
  intro met same
  subst same
  refine ⟨proper, fun reply after turn => ?_⟩
  subst turn
  exact follows reply

theorem Program.behaves_bind {program : Program Relay α} {next : α → Program Relay β}
    (first : program.Behaves past) (rest : ∀ value past, (next value).Behaves past) :
    (program >>= next).Behaves past :=
  (heeds_bind program next).mpr
    (first.mono (fun _ _ => id) fun value past _ => rest value past)

theorem DeliveryRecord.StemsFrom.later (stems : record.StemsFrom past) (rest : List Answered) :
    record.StemsFrom (past ++ rest) := by
  obtain ⟨id, held, found, same⟩ := stems
  exact ⟨id, held, List.mem_append_left _ found, same⟩

theorem Program.behaves_store {call : StoreCall} {next : call.Reply → Action α}
    (proper : Proper past (.store call)) (follows : ∀ value, (next value).result.Behaves
      (past ++ [⟨.store call, (.ok value : Except StoreError call.Reply)⟩])) :
    (Action.store call >>= next).result.Behaves past := by
  rw [result_store_bind]
  refine behaves_step proper fun reply => ?_
  cases reply with
  | error error => exact behaves_done _ _
  | ok value => exact follows value

theorem Program.behaves_queue {call : QueueCall} {next : call.Reply → Action α}
    (follows : ∀ value past, (next value).result.Behaves past) :
    (Action.queue call >>= next).result.Behaves past := by
  rw [result_queue_bind]
  refine behaves_step trivial fun reply => ?_
  cases reply with
  | error error => exact behaves_done _ _
  | ok value => exact follows value _

namespace Dispatch

open HookRelay.Program

/-- The record that is worked on at a point. -/
def Point.record? : Point → Option DeliveryRecord
  | .loaded record => some record
  | .eligible _ record .. => some record
  | .begun attempt | .ready attempt | .answered attempt _ => some attempt.begun
  | .accepted success => some success.succeeded
  | .refused flight => some flight.record
  | .failing failure => some failure.failed
  | _ => none

/-- The record that is worked on is that of the delivery that was loaded. -/
theorem Point.Goes.stems {point next : Point} {effect : Effect} {reply : effect.Reply}
    (goes : Goes policy point effect reply next)
    (stems : ∀ record, point.record? = some record → record.StemsFrom past)
    (same : next.record? = some record) : record.StemsFrom (past ++ [⟨effect, reply⟩]) := by
  cases goes with
  | loads record =>
    cases same
    exact ⟨_, record, List.mem_append_right _ List.mem_cons_self, rfl, rfl⟩
  | interrupted subscription inFlight =>
    cases same
    exact (stems _ rfl).later _
  | admits subscription landed active able =>
    cases same
    exact (stems _ rfl).later _
  | begins prepared begins signed =>
    cases same
    obtain ⟨_, rfl⟩ := DeliveryRecord.beginAttempt_eq_ok begins
    exact DeliveryRecord.StemsFrom.later (stems _ rfl) _
  | readies =>
    cases same
    exact (stems _ rfl).later _
  | sends answer =>
    cases same
    exact (stems _ rfl).later _
  | accepts now accepted succeeds =>
    cases same
    obtain ⟨_, rfl⟩ := DeliveryRecord.succeed_eq_ok succeeds
    exact DeliveryRecord.StemsFrom.later (stems _ rfl) _
  | refuses completed refused =>
    cases same
    exact (stems _ rfl).later _
  | notices now fails =>
    cases same
    obtain ⟨_, rfl⟩ := DeliveryRecord.fail_eq_ok fails
    exact DeliveryRecord.StemsFrom.later (stems _ rfl) _
  | _ => cases same

theorem request_authentic {signature : String} {now : Instant}
    (signed : Signature.signBytes (Json.canonical (enrich subscription record now))
      subscription.secret = .ok signature) :
    (request subscription begun (Json.canonical (enrich subscription record now)) signature
      now).Authentic subscription record now where
  body := rfl
  signed := signed
  verifies := Signature.verifyBytes_of_signBytes signed
  timestamp := rfl
  wired settings wire prepared := by
    obtain ⟨url, rfl⟩ := Client.prepare_eq_ok prepared
    exact ⟨rfl, rfl, rfl⟩

/-- A call has come to a point since it began. -/
structure Since (policy : RetryPolicy) (id : Uuid) (before : List Answered) (point : Point)
    (past : List Answered) : Prop where
  follows : ∃ trail, past = before ++ trail ∧ Follows policy id point trail
  stems : ∀ record, point.record? = some record → record.StemsFrom past

theorem Since.proper {id : Uuid} {before : List Answered} {point : Point} {effect : Effect}
    (since : Since policy id before point past) (does : point.does = some effect) :
    Proper past effect := by
  cases point with
  | begun attempt =>
    cases does
    exact since.stems _ rfl
  | accepted success =>
    cases does
    exact since.stems _ rfl
  | failing failure =>
    cases does
    exact since.stems _ rfl
  | ready attempt =>
    cases does
    obtain ⟨trail, rfl, follows⟩ := since.follows
    obtain ⟨_, shape⟩ := DeliveryRecord.beginAttempt_eq_ok attempt.begins
    refine ⟨id, attempt.record, attempt.subscription, attempt.prepared, attempt.begun,
      ⟨before, by rw [follows.ready]; rfl⟩, attempt.begins, ?_, rfl, request_authentic attempt.signed⟩
    show attempt.begun.id = attempt.record.id
    rw [shape]
  | ended result => cases does
  | _ =>
    cases does
    trivial

theorem process_behaves (policy : RetryPolicy) (id : Uuid) (past : List Answered) :
    (process policy id).result.Behaves past := by
  have called : Since policy id past (.called id) past :=
    ⟨⟨[], (List.append_nil past).symm, .called⟩, nofun⟩
  refine (governs_process policy id).heeds called ?_ ?_ ?_ ?_
  · rintro point past _ rfl since
    exact since
  · exact fun point effect past does since => since.proper does
  · rintro point effect reply next past _ goes rfl ⟨⟨trail, rfl, follows⟩, stems⟩
    exact ⟨⟨_, List.append_assoc _ _ _, follows.goes goes⟩, fun record => goes.stems stems⟩
  · exact fun _ _ _ => trivial

theorem enqueue_behaves {payload : Json.Value} (normal : payload.normal = payload)
    (subscription : Subscription) (eventType : String) (past : List Answered) :
    (enqueue subscription eventType payload).result.Behaves past := by
  unfold enqueue
  split
  · exact behaves_done _ _
  · split
    · exact behaves_done _ _
    · refine behaves_step trivial fun now => behaves_step trivial fun id => ?_
      exact behaves_store normal fun _ => behaves_queue fun _ _ => behaves_done _ _

private theorem enqueueEach_behaves {payload : Json.Value} (normal : payload.normal = payload)
    (eventType : String) (subscriptions : List Subscription) (past : List Answered) :
    (enqueueEach eventType payload subscriptions).Behaves past := by
  induction subscriptions generalizing past with
  | nil => exact behaves_done _ _
  | cons first rest ih =>
    exact behaves_bind (enqueue_behaves normal first eventType past) fun _ past =>
      behaves_bind (ih past) fun _ past => behaves_done _ past

theorem broadcast_behaves {payload : Json.Value} (normal : payload.normal = payload)
    (eventType : String) (past : List Answered) :
    (broadcast eventType payload).result.Behaves past := by
  unfold broadcast
  refine behaves_store trivial fun subscriptions => ?_
  exact behaves_bind (enqueueEach_behaves normal eventType subscriptions _) fun _ past =>
    behaves_done _ past

end Dispatch

namespace Worker

open HookRelay.Program

private theorem processOne_behaves (policy : RetryPolicy) (lease : Lease) (past : List Answered) :
    (processOne policy lease).Behaves past := by
  unfold processOne
  refine behaves_bind (Dispatch.process_behaves policy lease.deliveryId past) fun result past => ?_
  split
  · exact behaves_step trivial fun _ => behaves_step trivial fun _ => behaves_done _ _
  · exact behaves_step trivial fun _ => behaves_done _ _

private theorem processEach_behaves (policy : RetryPolicy) (leases : List Lease)
    (past : List Answered) : (processEach policy leases).Behaves past := by
  induction leases generalizing past with
  | nil => exact behaves_done _ _
  | cons lease rest ih => exact behaves_bind (processOne_behaves policy lease past) fun _ => ih

theorem batch_behaves (settings : WorkerSettings) (policy : RetryPolicy) (past : List Answered) :
    (batch settings policy).result.Behaves past := by
  unfold batch
  refine behaves_queue fun leases past => ?_
  rw [result_lift_bind]
  exact behaves_bind (processEach_behaves policy leases past) fun _ past => behaves_done _ past

theorem run_behaves (settings : WorkerSettings) (policy : RetryPolicy) (turns : Nat)
    (past : List Answered) : (run settings policy turns).Behaves past := by
  induction turns generalizing past with
  | zero => exact behaves_done _ _
  | succ turns ih =>
    refine behaves_step trivial fun cancelled => ?_
    split
    · exact behaves_done _ _
    · refine behaves_bind (batch_behaves settings policy _) fun result past => ?_
      split
      · exact behaves_step trivial fun _ => ih _
      · exact ih past

end Worker

namespace Sweep

open HookRelay.Program

private theorem clearEach_behaves (now : Instant) (candidates : List Subscription)
    (past : List Answered) : (clearEach now candidates).Behaves past := by
  induction candidates generalizing past with
  | nil => exact behaves_done _ _
  | cons first rest ih =>
    unfold clearEach
    split
    · refine behaves_step trivial fun _ => behaves_bind (behaves_done _ _) fun _ past => ?_
      exact behaves_bind (ih past) fun _ past => behaves_done _ past
    · exact ih past

theorem once_behaves (past : List Answered) : once.result.Behaves past := by
  unfold once
  refine behaves_store trivial fun candidates => ?_
  rw [result_perform_bind]
  refine behaves_step trivial fun now => ?_
  exact behaves_bind (clearEach_behaves now candidates _) fun _ past => behaves_done _ past

theorem run_behaves (interval : Duration) (turns : Nat) (past : List Answered) :
    (run interval turns).Behaves past := by
  induction turns generalizing past with
  | zero => exact behaves_done _ _
  | succ turns ih =>
    refine behaves_bind (once_behaves past) fun _ past => behaves_step trivial fun _ => ?_
    refine behaves_step trivial fun cancelled => ?_
    split
    · exact behaves_done _ _
    · exact ih _

end Sweep

end HookRelay
