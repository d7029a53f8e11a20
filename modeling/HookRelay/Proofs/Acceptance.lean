import HookRelay.Memory.Deployment
import HookRelay.Proofs.Serving

/-!
What an enqueue makes of a deployment in memory. It writes to the store and then to the queue, and
takes back nothing: only where the queue fails is a record left behind that has no task.
-/
namespace HookRelay

open HookRelay.Action

theorem ManualClock.now_le_latest (clock : ManualClock) : clock.now ≤ Instant.latest := by
  unfold now
  dsimp only
  split
  · rename_i within
    exact of_decide_eq_true (Bool.and_eq_true_iff.mp within).2
  · exact Int.le_refl _

theorem dueAt_zero {now : Instant} (reached : now ≤ Instant.latest) : dueAt now .zero = .ok now := by
  have same : (⟨now.nanos + Duration.zero.nanos⟩ : Instant) = now :=
    Instant.eq_of_nanos (Int.add_zero now.nanos)
  have later : now.later? .zero = some now := by
    simp only [Instant.later?, same]
    exact if_pos (Bool.and_eq_true_iff.mpr ⟨rfl, decide_eq_true reached⟩)
  rw [dueAt, later]

namespace Deployment

variable {deployment : Deployment} {subscription : Subscription} {eventType : String}
  {payload : Json.Value}

/-- A delivery is new to a deployment, and has been stored as one that nobody has tried yet. -/
structure Creates (deployment : Deployment) (subscription : Subscription) (eventType : String)
    (payload : Json.Value) (id : Uuid) (after : Deployment) : Prop where
  fresh : deployment.store.deliveries.find? id = none
  created : after.store.deliveries = deployment.store.deliveries.put id
    (.pending id subscription.id eventType payload deployment.clock.now)

/-- How an enqueue ends. -/
inductive Enqueues (deployment : Deployment) (subscription : Subscription) (eventType : String)
    (payload : Json.Value) : Except DeliveryError Uuid → Deployment → Prop where
  | accepted {id : Uuid} {after : Deployment}
      (creates : deployment.Creates subscription eventType payload id after)
      (due : after.queue.slots = deployment.queue.slots.put id ⟨deployment.clock.now, none⟩)
      (scheduled : after.queue.history = deployment.queue.history ++ [.now id]) :
      Enqueues deployment subscription eventType payload (.ok id) after
  | refused {error : DeliveryError} {after : Deployment}
      (early : ∀ reason, error ≠ .queue reason)
      (deliveries : after.store.deliveries = deployment.store.deliveries)
      (queue : after.queue = deployment.queue) :
      Enqueues deployment subscription eventType payload (.error error) after
  | stranded {reason : String} {id : Uuid} {after : Deployment}
      (fault : deployment.queue.fault = some reason)
      (creates : deployment.Creates subscription eventType payload id after)
      (slots : after.queue.slots = deployment.queue.slots)
      (history : after.queue.history = deployment.queue.history) :
      Enqueues deployment subscription eventType payload (.error (.queue reason)) after

/-- A program runs to its end at a deployment, and this holds then. -/
def Ends {α : Type} (post : α → Deployment → Prop) (program : Program Relay α)
    (deployment : Deployment) : Prop :=
  ∃ value after, program.run answer deployment = (some value, after) ∧ post value after

theorem ends_done {α : Type} {post : α → Deployment → Prop} {value : α}
    (holds : post value deployment) : Ends post (.done value) deployment :=
  ⟨value, deployment, rfl, holds⟩

theorem ends_step {α : Type} {post : α → Deployment → Prop} {effect : Effect} {reply : effect.Reply}
    {next : effect.Reply → Program Relay α} {after : Deployment}
    (answered : answer effect deployment = (some reply, after))
    (ends : Ends post (next reply) after) : Ends post (.step effect next) deployment := by
  obtain ⟨value, last, ran, holds⟩ := ends
  refine ⟨value, last, ?_, holds⟩
  exact (Program.run_step answered _).trans ran

structure Alike (first second : Deployment) : Prop where
  deliveries : second.store.deliveries = first.store.deliveries
  queue : second.queue = first.queue
  clock : second.clock = first.clock

theorem Alike.trans {first second third : Deployment} (earlier : first.Alike second)
    (later : second.Alike third) : first.Alike third :=
  ⟨later.deliveries.trans earlier.deliveries, later.queue.trans earlier.queue,
    later.clock.trans earlier.clock⟩

/-- An edit may have waited for the clock to be read, but concerns no delivery. -/
theorem answer_now_alike (deployment : Deployment) : ∃ after,
    answer .now deployment = (some deployment.clock.now, after) ∧ deployment.Alike after := by
  refine ⟨deployment.readClock.2, rfl, ?_, rfl, rfl⟩
  unfold readClock
  split
  · rfl
  · rfl

theorem answer_newDeliveryId_alike (deployment : Deployment) : ∃ (id : Uuid) (after : Deployment),
    answer .newDeliveryId deployment = (some id, after) ∧ deployment.Alike after :=
  ⟨_, _, rfl, rfl, rfl, rfl⟩

/-- Creating a record either stores it under an id of its own, or leaves all deliveries alone. -/
theorem answer_createDelivery (deployment : Deployment) (record : DeliveryRecord) :
    ∃ (reply : Except StoreError Unit) (after : Deployment),
      answer (.store (.createDelivery record)) deployment = (some reply, after) ∧
      ((reply = .ok () ∧ deployment.store.deliveries.find? record.id = none ∧
          after.store.deliveries = deployment.store.deliveries.put record.id record ∧
          after.queue = deployment.queue ∧ after.clock = deployment.clock) ∨
        (∃ error, reply = .error error) ∧ deployment.Alike after) := by
  simp only [answer, MemoryStore.call]
  split
  · exact ⟨_, _, rfl, .inr ⟨⟨_, rfl⟩, rfl, rfl, rfl⟩⟩
  · split
    · rename_i reply store answered
      refine ⟨reply, _, rfl, ?_⟩
      rcases MemoryStore.answer?_createDelivery answered with
        ⟨created, _, fresh, rfl⟩ | ⟨refused, rfl⟩
      · exact .inl ⟨created, fresh, rfl, rfl, rfl⟩
      · exact .inr ⟨refused, rfl, rfl, rfl⟩
    · rename_i silent
      cases silent

theorem answer_enqueue_of_accepting (accepting : deployment.queue.fault = none) (id : Uuid) :
    answer (.queue (.enqueue (.now id))) deployment =
      (some (.ok () : Except DeliveryError Unit), { deployment with
        queue := { deployment.queue with
          slots := deployment.queue.slots.put id ⟨deployment.clock.now, none⟩
          history := deployment.queue.history ++ [.now id] } }) := by
  have due : dueAt deployment.clock.now (Task.now id).delay = .ok deployment.clock.now :=
    dueAt_zero deployment.clock.now_le_latest
  simp only [answer, callQueue, MemoryQueue.enqueue, accepting, due]
  rfl

/-- The queue takes a task that is due at once, unless it has been told to fail. -/
theorem answer_enqueue_now (deployment : Deployment) (id : Uuid) :
    ∃ reply queue, answer (.queue (.enqueue (.now id))) deployment =
        (some (reply : Except DeliveryError Unit), { deployment with queue := queue }) ∧
      ((reply = .ok () ∧ deployment.queue.fault = none ∧
          queue.slots = deployment.queue.slots.put id ⟨deployment.clock.now, none⟩ ∧
          queue.history = deployment.queue.history ++ [.now id]) ∨
        ∃ reason, reply = .error (.queue reason) ∧ deployment.queue.fault = some reason ∧
          queue.slots = deployment.queue.slots ∧ queue.history = deployment.queue.history) := by
  cases fault : deployment.queue.fault with
  | none =>
    exact ⟨_, _, answer_enqueue_of_accepting fault id, .inl ⟨rfl, rfl, rfl, rfl⟩⟩
  | some reason =>
    refine ⟨_, { deployment.queue with fault := none }, ?_, .inr ⟨reason, rfl, rfl, rfl, rfl⟩⟩
    simp only [answer, callQueue, MemoryQueue.enqueue, fault]
    rfl

private theorem queue_ends {id : Uuid} {stored : Deployment}
    (creates : deployment.Creates subscription eventType payload id stored)
    (kept : stored.queue = deployment.queue) (still : stored.clock = deployment.clock) :
    Ends (deployment.Enqueues subscription eventType payload)
      (Action.queue (.enqueue (.now id)) >>= fun _ => pure id : Action Uuid).result stored := by
  obtain ⟨reply, queue, answered, scheduled⟩ := stored.answer_enqueue_now id
  rw [kept, still] at scheduled
  rw [result_queue_bind]
  refine ends_step answered ?_
  rcases scheduled with ⟨rfl, _, slots, history⟩ | ⟨reason, rfl, fault, slots, history⟩
  · exact ends_done (.accepted ⟨creates.fresh, creates.created⟩ slots history)
  · exact ends_done (.stranded fault ⟨creates.fresh, creates.created⟩ slots history)

private theorem create_ends {drawn : Deployment} (id : Uuid) (alike : deployment.Alike drawn) :
    Ends (deployment.Enqueues subscription eventType payload)
      (Action.store (.createDelivery
          (.pending id subscription.id eventType payload deployment.clock.now)) >>= fun _ =>
        Action.queue (.enqueue (.now id)) >>= fun _ => pure id : Action Uuid).result drawn := by
  obtain ⟨reply, stored, answered, created⟩ := drawn.answer_createDelivery
    (.pending id subscription.id eventType payload deployment.clock.now)
  rw [alike.deliveries] at created
  rw [result_store_bind]
  refine ends_step answered ?_
  rcases created with ⟨rfl, fresh, put, queue, clock⟩ | ⟨⟨error, rfl⟩, same⟩
  · exact queue_ends ⟨fresh, put⟩ (queue.trans alike.queue) (clock.trans alike.clock)
  · exact ends_done (.refused nofun (same.deliveries.trans alike.deliveries)
      (same.queue.trans alike.queue))

/-- An enqueue always ends: with a new record and a task that is due, with nothing changed, or where
the queue failed with a new record alone. -/
theorem enqueue_ends (deployment : Deployment) (subscription : Subscription)
    (eventType : String) (payload : Json.Value) :
    ∃ result after,
      deployment.run (Dispatch.enqueue subscription eventType payload) = (some result, after) ∧
        deployment.Enqueues subscription eventType payload result after := by
  suffices ends : Ends (deployment.Enqueues subscription eventType payload)
    (Dispatch.enqueue subscription eventType payload).result deployment from ends
  unfold Dispatch.enqueue
  split
  · exact ends_done (.refused nofun rfl rfl)
  split
  · exact ends_done (.refused nofun rfl rfl)
  obtain ⟨read, answered, first⟩ := deployment.answer_now_alike
  rw [result_perform_bind]
  refine ends_step answered ?_
  obtain ⟨id, drawn, answered, second⟩ := read.answer_newDeliveryId_alike
  rw [result_perform_bind]
  refine ends_step answered ?_
  exact create_ends id (first.trans second)

/-- An enqueue gives a new delivery with a task that is due, or an error and no change. -/
def AllOrNothing (deployment : Deployment) (subscription : Subscription) (eventType : String)
    (payload : Json.Value) : Prop :=
  ∃ result after,
    deployment.run (Dispatch.enqueue subscription eventType payload) = (some result, after) ∧
      ((∃ id, result = .ok id ∧ deployment.Creates subscription eventType payload id after ∧
          after.queue.slots = deployment.queue.slots.put id ⟨deployment.clock.now, none⟩ ∧
          after.queue.history = deployment.queue.history ++ [.now id]) ∨
        (∃ error, result = .error error) ∧
          after.store.deliveries = deployment.store.deliveries ∧
          after.queue.slots = deployment.queue.slots ∧
          after.queue.history = deployment.queue.history)

private def offline : Deployment :=
  { Deployment.start (.startingAt ⟨0⟩) (.ofList [⟨7⟩]) .standard ⟨true, [], []⟩ with
    store := MemoryStore.empty.putSubscription .ofOrders
    queue := { MemoryQueue.empty with fault := some "queue offline" } }

/-- An error, and a record that nobody will work on. -/
theorem not_allOrNothing_offline : ¬offline.AllOrNothing .ofOrders "order.created" .null := by
  rintro ⟨result, after, ran, ⟨id, rfl, _⟩ | ⟨_, deliveries, _⟩⟩
  · have refused : (offline.run (Dispatch.enqueue .ofOrders "order.created" .null)).1.any
        Except.isOk = false := by decide +kernel
    rw [ran] at refused
    cases refused
  · have left : ((offline.run (Dispatch.enqueue .ofOrders "order.created" .null)).2.store.deliveries
        |>.find? ⟨7⟩).isSome = true := by decide +kernel
    rw [ran, deliveries] at left
    cases left

end Deployment

end HookRelay
