import HookRelay.Memory.Queue
import HookRelay.Memory.Store
import HookRelay.Proofs.Conduct
import HookRelay.Proofs.Queue.Claim
import HookRelay.Worker

/-!
A relay at work on the store and the queue in memory, with a log of what it sends, saves and
announces, in a world that may answer requests as it likes and fail calls without effect. What the
relay holds about one delivery is its dossier; `turn_` theorems say how an effect changes dossiers.
-/
namespace HookRelay

/-- One request as it was sent: when, with what record stored for it, and how it was answered. -/
structure Sending where
  request : DeliveryRequest
  time : Instant
  stored : Option DeliveryRecord
  answer : Except DeliveryError DeliveryResponse

structure Site where
  time : Instant
  store : MemoryStore
  queue : MemoryQueue
  sendings : List Sending
  saves : List DeliveryRecord
  events : List DeliveryEvent

/-- All that a site holds about one delivery. -/
structure Dossier where
  record : Option DeliveryRecord
  slot : Option Slot
  tasks : List Task
  sendings : List Sending
  saves : List DeliveryRecord
  events : List DeliveryEvent

namespace Dossier

def created (dossier : Dossier) (record : DeliveryRecord) : Dossier :=
  { dossier with record := some record }

def saved (dossier : Dossier) (record : DeliveryRecord) : Dossier :=
  { dossier with record := some record, saves := dossier.saves ++ [record] }

def sent (dossier : Dossier) (sending : Sending) : Dossier :=
  { dossier with sendings := dossier.sendings ++ [sending] }

def scheduled (dossier : Dossier) (task : Task) (due : Instant) : Dossier :=
  { dossier with slot := some ⟨due, none⟩, tasks := dossier.tasks ++ [task] }

def announced (dossier : Dossier) (event : DeliveryEvent) : Dossier :=
  { dossier with events := dossier.events ++ [event] }

def leased (dossier : Dossier) (ends : Instant) (leaseId : Uuid) : Dossier :=
  { dossier with slot := some ⟨ends, some leaseId⟩ }

/-- A task leaves the queue when the lease that is given up holds it. -/
def completed (dossier : Dossier) (lease : Lease) : Dossier :=
  { dossier with slot :=
      if dossier.slot.bind Slot.leaseId = some lease.leaseId then none else dossier.slot }

def Filed (dossier : Dossier) (id : Uuid) : Prop :=
  ∀ record, dossier.record = some record → record.id = id

end Dossier

namespace Site

def dossier (site : Site) (id : Uuid) : Dossier where
  record := site.store.deliveries.find? id
  slot := site.queue.slots.find? id
  tasks := site.queue.history.filter fun task => task.deliveryId = id
  sendings := site.sendings.filter fun sending => sending.request.deliveryId = id
  saves := site.saves.filter fun record => record.id = id
  events := site.events.filter fun event => event.subject.deliveryId = id

end Site

/-- What may go wrong while a relay works, and what it may rely on: which subscriptions it finds for
a delivery, and how time passes. -/
structure Conditions where
  storeFails : Prop
  queueFails : Prop
  breaksOff : Prop
  offers : (delivery owner : Uuid) → Option Subscription → Prop
  passes : Instant → Instant → Prop
  passes_refl : ∀ time, passes time time
  passes_trans : ∀ first second third, passes first second → passes second third →
    passes first third

/-- The records that a call saves when it succeeds. -/
def StoreCall.saved : StoreCall → List DeliveryRecord
  | .saveDelivery record => [record]
  | _ => []

/-- How the queue in memory may answer a call at the time of a site; a claim draws any lease id. -/
def Site.QueueAnswers (site : Site) :
    (call : QueueCall) → Except DeliveryError call.Reply → MemoryQueue → Prop
  | .enqueue task, reply, queue => site.queue.enqueue task site.time = (reply, queue)
  | .claim most lease, reply, queue => ∃ leaseId,
      (∃ leases, site.queue.claim most lease leaseId site.time = .ok (leases, queue) ∧
        reply = .ok leases) ∨
      ∃ error, site.queue.claim most lease leaseId site.time = .error error ∧
        reply = .error error ∧ queue = site.queue
  | .complete lease, reply, queue => reply = .ok () ∧ queue = site.queue.complete lease

namespace Conditions

/-- The deliveries that are stored find their subscriptions as they may rely on. -/
def Meets (conditions : Conditions) (site : Site) : Prop :=
  ∀ id record, site.store.deliveries.find? id = some record →
    conditions.offers record.id record.subscriptionId
      (site.store.subscriptions.find? record.subscriptionId)

/-- How an effect may turn out. -/
def Turn (conditions : Conditions) : (effect : Effect) → Site → effect.Reply → Site → Prop
  | .now, site, reply, after => reply = site.time ∧ after = site
  | .sleep _, site, _, after => after = site
  | .isCancelled, site, _, after => after = site
  | .newDeliveryId, site, _, after => after = site
  | .drawJitter, site, _, after => after = site
  | .store call, site, reply, after =>
    (∃ store, site.store.answer? call = some (reply, store) ∧
      (conditions.storeFails ∨ reply.isOk = true) ∧ after = { site with
        store := store
        saves := site.saves ++ if reply.isOk then call.saved else [] }) ∨
    (conditions.storeFails ∧ (∃ error, reply = .error error) ∧ after = site)
  | .queue call, site, reply, after =>
    (∃ queue, site.QueueAnswers call reply queue ∧
      (conditions.queueFails ∨ reply.isOk = true) ∧ after = { site with queue := queue }) ∨
    (conditions.queueFails ∧ (∃ reason, reply = .error (.queue reason)) ∧ after = site)
  | .send request, site, reply, after => after = { site with
      sendings := site.sendings ++
        [⟨request, site.time, site.store.deliveries.find? request.deliveryId, reply⟩] }
  | .publish event, site, _, after => after = { site with events := site.events ++ [event] }
  | .tally _, site, _, after => after = site
  | .halt, _, _, _ => False

/-- The surroundings of a call that has some deliveries to itself: their dossiers change only by its
own effects, while the clock moves and owners edit what the conditions let them. -/
def around (conditions : Conditions) (own : Uuid → Prop) : Surroundings Relay Site where
  drift site after := (∀ id, own id → after.dossier id = site.dossier id) ∧
    conditions.passes site.time after.time ∧ (conditions.Meets site → conditions.Meets after)
  turn effect site reply after :=
    conditions.Turn effect site reply after ∧ (conditions.Meets site → conditions.Meets after)
  breaksOff := conditions.breaksOff
  drift_refl _ := ⟨fun _ _ => rfl, conditions.passes_refl _, id⟩
  drift_trans _ _ _ first second :=
    ⟨fun id mine => (second.1 id mine).trans (first.1 id mine),
      conditions.passes_trans _ _ _ first.2.1 second.2.1, fun meets => second.2.2 (first.2.2 meets)⟩

variable {conditions : Conditions} {site after : Site}

theorem turn_time {effect : Effect} {reply : effect.Reply}
    (turn : conditions.Turn effect site reply after) : after.time = site.time := by
  cases effect with
  | now => rw [turn.2]
  | sleep duration => rw [turn]
  | isCancelled => rw [turn]
  | newDeliveryId => rw [turn]
  | drawJitter => rw [turn]
  | store call =>
    rcases turn with ⟨store, _, _, rfl⟩ | ⟨_, _, rfl⟩
    · rfl
    · rfl
  | queue call =>
    rcases turn with ⟨queue, _, _, rfl⟩ | ⟨_, _, rfl⟩
    · rfl
    · rfl
  | send request => rw [turn]
  | publish event => rw [turn]
  | tally result => rw [turn]
  | halt => exact turn.elim

theorem turn_findDelivery {id : Uuid} {reply : Except StoreError (Option DeliveryRecord)}
    (turn : conditions.Turn (.store (.findDelivery id)) site reply after) :
    (reply = .ok (site.dossier id).record ∨ ∃ error, reply = .error error ∧ conditions.storeFails) ∧
      ∀ id, after.dossier id = site.dossier id := by
  rcases turn with ⟨store, answered, _, rfl⟩ | ⟨allowed, ⟨error, failed⟩, rfl⟩
  · cases answered
    exact ⟨.inl rfl, fun id => by simp [Site.dossier, StoreCall.saved]⟩
  · exact ⟨.inr ⟨error, failed, allowed⟩, fun _ => rfl⟩

theorem turn_findSubscription {id : Uuid} {reply : Except StoreError (Option Subscription)}
    (turn : conditions.Turn (.store (.findSubscription id)) site reply after) :
    (reply = .ok (site.store.subscriptions.find? id) ∨
      ∃ error, reply = .error error ∧ conditions.storeFails) ∧
      ∀ id, after.dossier id = site.dossier id := by
  rcases turn with ⟨store, answered, _, rfl⟩ | ⟨allowed, ⟨error, failed⟩, rfl⟩
  · cases answered
    exact ⟨.inl rfl, fun id => by simp [Site.dossier, StoreCall.saved]⟩
  · exact ⟨.inr ⟨error, failed, allowed⟩, fun _ => rfl⟩

theorem turn_createDelivery {record : DeliveryRecord} {reply : Except StoreError Unit}
    (turn : conditions.Turn (.store (.createDelivery record)) site reply after) :
    (reply = .ok () ∧ (site.dossier record.id).record = none ∧ ∀ id, after.dossier id =
      if record.id = id then (site.dossier id).created record else site.dossier id) ∨
    (∃ error, reply = .error error ∧ conditions.storeFails) ∧
      ∀ id, after.dossier id = site.dossier id := by
  rcases turn with ⟨store, answered, allowed, rfl⟩ | ⟨allowed, ⟨error, failed⟩, rfl⟩
  · rcases MemoryStore.answer?_createDelivery answered with
      ⟨rfl, _, fresh, rfl⟩ | ⟨⟨error, rfl⟩, rfl⟩
    · refine .inl ⟨rfl, fresh, fun id => ?_⟩
      by_cases same : record.id = id
      · subst same
        simp [Site.dossier, Dossier.created, MemoryStore.putDelivery, Table.find?_put,
          StoreCall.saved]
      · simp [Site.dossier, MemoryStore.putDelivery, Table.find?_put, StoreCall.saved, same,
          Ne.symm same]
    · exact .inr ⟨⟨error, rfl, allowed.resolve_right Bool.false_ne_true⟩, fun id => by
        simp [Site.dossier, Except.isOk, Except.toBool]⟩
  · exact .inr ⟨⟨error, failed, allowed⟩, fun _ => rfl⟩

theorem turn_saveDelivery {record : DeliveryRecord} {reply : Except StoreError Unit}
    (turn : conditions.Turn (.store (.saveDelivery record)) site reply after) :
    (reply = .ok () ∧ ∀ id, after.dossier id =
      if record.id = id then (site.dossier id).saved record else site.dossier id) ∨
    (∃ error, reply = .error error ∧ conditions.storeFails) ∧
      ∀ id, after.dossier id = site.dossier id := by
  rcases turn with ⟨store, answered, allowed, rfl⟩ | ⟨allowed, ⟨error, failed⟩, rfl⟩
  · rcases MemoryStore.answer?_saveDelivery answered with ⟨rfl, _, rfl⟩ | ⟨⟨error, rfl⟩, rfl⟩
    · refine .inl ⟨rfl, fun id => ?_⟩
      by_cases same : record.id = id
      · subst same
        simp [Site.dossier, Dossier.saved, MemoryStore.putDelivery, Table.find?_put,
          StoreCall.saved, Except.isOk, Except.toBool]
      · simp [Site.dossier, MemoryStore.putDelivery, Table.find?_put, StoreCall.saved, same,
          Ne.symm same]
    · exact .inr ⟨⟨error, rfl, allowed.resolve_right Bool.false_ne_true⟩, fun id => by
        simp [Site.dossier, Except.isOk, Except.toBool]⟩
  · exact .inr ⟨⟨error, failed, allowed⟩, fun _ => rfl⟩

theorem turn_enqueue {task : Task} {reply : Except DeliveryError Unit}
    (turn : conditions.Turn (.queue (.enqueue task)) site reply after) :
    (reply = .ok () ∧ ∃ due, dueAt site.time task.delay = .ok due ∧ ∀ id, after.dossier id =
      if task.deliveryId = id then (site.dossier id).scheduled task due else site.dossier id) ∨
    (∃ reason, reply = .error (.queue reason) ∧ conditions.queueFails) ∧
      ∀ id, after.dossier id = site.dossier id := by
  rcases turn with ⟨queue, answered, allowed, rfl⟩ | ⟨allowed, ⟨reason, failed⟩, rfl⟩
  · rcases site.queue.enqueue_cases task site.time with
      ⟨due, reached, scheduled⟩ | ⟨reason, fault, refused⟩
    · cases answered.symm.trans scheduled
      refine .inl ⟨rfl, due, reached, fun id => ?_⟩
      by_cases same : task.deliveryId = id
      · subst same
        simp [Site.dossier, Dossier.scheduled, Table.find?_put]
      · simp [Site.dossier, Table.find?_put, same, Ne.symm same]
    · cases answered.symm.trans refused
      exact .inr ⟨⟨reason, rfl, allowed.resolve_right Bool.false_ne_true⟩, fun _ => rfl⟩
  · exact .inr ⟨⟨reason, failed, allowed⟩, fun _ => rfl⟩

/-- A claim leases each delivery it returns, once, and only if it is due. -/
theorem turn_claim {most : Nat} {lease : Duration} {reply : Except DeliveryError (List Lease)}
    (turn : conditions.Turn (.queue (.claim most lease)) site reply after) :
    (∃ leases leaseId ends, reply = .ok leases ∧ (leases.map Lease.deliveryId).Nodup ∧
      (∀ lease ∈ leases, lease.leaseId = leaseId) ∧
      ∀ id, if id ∈ leases.map Lease.deliveryId then
        (∃ slot, (site.dossier id).slot = some slot ∧ slot.due ≤ site.time) ∧
          after.dossier id = (site.dossier id).leased ends leaseId
      else after.dossier id = site.dossier id) ∨
    (∃ reason, reply = .error (.queue reason) ∧ conditions.queueFails) ∧
      ∀ id, after.dossier id = site.dossier id := by
  rcases turn with ⟨queue, answered, allowed, rfl⟩ | ⟨allowed, ⟨reason, failed⟩, rfl⟩
  · obtain ⟨leaseId, ⟨leases, claimed, rfl⟩ | ⟨error, refused, rfl, rfl⟩⟩ := answered
    · obtain ⟨ends, _, returned, history, slots⟩ := MemoryQueue.claim_eq_ok claimed
      have ids : leases.map Lease.deliveryId = site.queue.claimable most site.time := by
        rw [returned, List.map_map]
        exact List.map_id _
      refine .inl ⟨leases, leaseId, ends, rfl, ?_, ?_, fun id => ?_⟩
      · rw [ids]
        exact site.queue.claimable_nodup most site.time
      · intro lease member
        rw [returned] at member
        obtain ⟨id, _, rfl⟩ := List.mem_map.mp member
        rfl
      · rw [ids]
        split
        · rename_i picked
          refine ⟨MemoryQueue.due_of_mem_claimable picked, ?_⟩
          simp [Site.dossier, Dossier.leased, slots, picked, history]
        · rename_i left
          simp [Site.dossier, slots, left, history]
    · unfold MemoryQueue.claim at refused
      cases reached : dueAt site.time lease with
      | ok ends =>
        rw [reached] at refused
        cases refused
      | error cause =>
        rw [reached] at refused
        cases refused
        obtain ⟨reason, rfl⟩ := dueAt_eq_error reached
        exact .inr ⟨⟨reason, rfl, allowed.resolve_right Bool.false_ne_true⟩, fun _ => rfl⟩
  · exact .inr ⟨⟨reason, failed, allowed⟩, fun _ => rfl⟩

theorem turn_complete {lease : Lease} {reply : Except DeliveryError Unit}
    (turn : conditions.Turn (.queue (.complete lease)) site reply after) :
    (∀ id, after.dossier id =
      if lease.deliveryId = id then (site.dossier id).completed lease else site.dossier id) ∨
    conditions.queueFails ∧ ∀ id, after.dossier id = site.dossier id := by
  rcases turn with ⟨queue, ⟨rfl, rfl⟩, _, rfl⟩ | ⟨allowed, _, rfl⟩
  · refine .inl fun id => ?_
    by_cases same : lease.deliveryId = id
    · subst same
      by_cases held : (site.queue.slots.find? lease.deliveryId).bind Slot.leaseId =
          some lease.leaseId
      · simp [Site.dossier, Dossier.completed, MemoryQueue.find?_complete, held]
      · simp [Site.dossier, Dossier.completed, MemoryQueue.find?_complete, held]
    · simp [Site.dossier, MemoryQueue.find?_complete, same, Ne.symm same]
  · exact .inr ⟨allowed, fun _ => rfl⟩

theorem turn_send {request : DeliveryRequest} {reply : Except DeliveryError DeliveryResponse}
    (turn : conditions.Turn (.send request) site reply after) (id : Uuid) :
    after.dossier id = if request.deliveryId = id then (site.dossier id).sent
      ⟨request, site.time, (site.dossier id).record, reply⟩ else site.dossier id := by
  rw [turn]
  by_cases same : request.deliveryId = id
  · subst same
    simp [Site.dossier, Dossier.sent]
  · simp [Site.dossier, same]

theorem turn_publish {event : DeliveryEvent}
    (turn : conditions.Turn (.publish event) site () after) (id : Uuid) :
    after.dossier id =
      if event.subject.deliveryId = id then (site.dossier id).announced event
      else site.dossier id := by
  rw [turn]
  by_cases same : event.subject.deliveryId = id
  · subst same
    simp [Site.dossier, Dossier.announced]
  · simp [Site.dossier, same]

theorem turn_sendings_eq {effect : Effect} {reply : effect.Reply} {id : Uuid}
    (turn : conditions.Turn effect site reply after) (silent : ∀ request, effect ≠ .send request) :
    (after.dossier id).sendings = (site.dossier id).sendings := by
  cases effect with
  | now => rw [turn.2]
  | sleep duration => rw [turn]
  | isCancelled => rw [turn]
  | newDeliveryId => rw [turn]
  | drawJitter => rw [turn]
  | tally result => rw [turn]
  | halt => exact turn.elim
  | send request => exact absurd rfl (silent request)
  | publish event => rw [turn]; rfl
  | queue call =>
    rcases turn with ⟨queue, _, _, rfl⟩ | ⟨_, _, rfl⟩
    · rfl
    · rfl
  | store call =>
    rcases turn with ⟨store, _, _, rfl⟩ | ⟨_, _, rfl⟩
    · rfl
    · rfl

end Conditions

/-- The deliveries whose dossiers an effect may change. -/
def Effect.Concerns (id : Uuid) : Effect → Prop
  | .store (.createDelivery record) => record.id = id
  | .store (.saveDelivery record) => record.id = id
  | .queue (.enqueue task) => task.deliveryId = id
  | .queue (.claim ..) => True
  | .queue (.complete lease) => lease.deliveryId = id
  | .send request => request.deliveryId = id
  | .publish event => event.subject.deliveryId = id
  | _ => False

theorem Conditions.turn_dossier_eq {conditions : Conditions} {site after : Site} {effect : Effect}
    {reply : effect.Reply} {id : Uuid} (turn : conditions.Turn effect site reply after)
    (apart : ¬effect.Concerns id) : after.dossier id = site.dossier id := by
  cases effect with
  | now => rw [turn.2]
  | sleep duration => rw [turn]
  | isCancelled => rw [turn]
  | newDeliveryId => rw [turn]
  | drawJitter => rw [turn]
  | tally result => rw [turn]
  | halt => exact turn.elim
  | send request => exact (turn_send turn id).trans (if_neg apart)
  | publish event => exact (turn_publish turn id).trans (if_neg apart)
  | queue call =>
    cases call with
    | claim most lease => exact absurd trivial apart
    | enqueue task =>
      rcases turn_enqueue turn with ⟨_, due, _, changed⟩ | ⟨_, same⟩
      · exact (changed id).trans (if_neg apart)
      · exact same id
    | complete lease =>
      rcases turn_complete turn with changed | ⟨_, same⟩
      · exact (changed id).trans (if_neg apart)
      · exact same id
  | store call =>
    by_cases creates : ∃ record, call = .createDelivery record
    · obtain ⟨record, rfl⟩ := creates
      rcases turn_createDelivery turn with ⟨_, _, changed⟩ | ⟨_, same⟩
      · exact (changed id).trans (if_neg apart)
      · exact same id
    by_cases saves : ∃ record, call = .saveDelivery record
    · obtain ⟨record, rfl⟩ := saves
      rcases turn_saveDelivery turn with ⟨_, changed⟩ | ⟨_, same⟩
      · exact (changed id).trans (if_neg apart)
      · exact same id
    have silent : call.saved = [] := by
      cases call <;> first | rfl | exact absurd ⟨_, rfl⟩ saves
    rcases turn with ⟨store, answered, _, rfl⟩ | ⟨_, _, rfl⟩
    · have same := MemoryStore.answer?_deliveries answered
        (fun record created => creates ⟨record, created⟩)
        (fun record saved => saves ⟨record, saved⟩)
      simp [Site.dossier, same, silent]
    · rfl

end HookRelay
