import HookRelay.Memory.Deployment
import HookRelay.Proofs.Queue.Claim

/-!
Leases over the whole history of a queue: who may claim a delivery again and when, which completion
removes a task, and what a failed call leaves behind. Clock readings may go in any direction; of
lease ids only that a claim draws a new one.
-/
namespace HookRelay

/-- A claim that was made, and what it returned. -/
structure Claim where
  now : Instant
  lease : Duration
  leaseId : Uuid
  leases : List Lease

def Claim.Returned (claim : Claim) (id : Uuid) : Prop := ⟨id, claim.leaseId⟩ ∈ claim.leases

instance (claim : Claim) (id : Uuid) : Decidable (claim.Returned id) :=
  inferInstanceAs (Decidable (_ ∈ _))

inductive QueueEvent where
  | injected (reason : String)
  | refused (call : QueueCall)
  | enqueued (task : Task)
  | claimed (claim : Claim)
  | completed (lease : Lease)

/-- One call to a queue at any reading of the clock, or an error injected for the next enqueue. -/
inductive QueueStep : MemoryQueue → QueueEvent → MemoryQueue → Prop where
  | inject {queue : MemoryQueue} {reason : String} :
      QueueStep queue (.injected reason) { queue with fault := some reason }
  | enqueue {queue after : MemoryQueue} {task : Task} {now : Instant}
      (made : queue.enqueue task now = (.ok (), after)) : QueueStep queue (.enqueued task) after
  | refuseEnqueue {queue after : MemoryQueue} {task : Task} {now : Instant} {error : DeliveryError}
      (failed : queue.enqueue task now = (.error error, after)) :
      QueueStep queue (.refused (.enqueue task)) after
  | claim {queue after : MemoryQueue} {most : Nat} {lease : Duration} {leaseId : Uuid}
      {now : Instant} {leases : List Lease}
      (made : queue.claim most lease leaseId now = .ok (leases, after)) :
      QueueStep queue (.claimed ⟨now, lease, leaseId, leases⟩) after
  | refuseClaim {queue : MemoryQueue} {most : Nat} {lease : Duration} {leaseId : Uuid}
      {now : Instant} {error : DeliveryError}
      (failed : queue.claim most lease leaseId now = .error error) :
      QueueStep queue (.refused (.claim most lease)) queue
  | complete {queue : MemoryQueue} (lease : Lease) :
      QueueStep queue (.completed lease) (queue.complete lease)

/-- What has happened to a queue since it was empty, latest first. No two claims share a lease id. -/
inductive QueueHistory : List QueueEvent → MemoryQueue → Prop where
  | start : QueueHistory [] .empty
  | next (history : QueueHistory past queue) (step : QueueStep queue event after)
      (fresh : ∀ claim, event = .claimed claim →
        ∀ older, .claimed older ∈ past → older.leaseId ≠ claim.leaseId) :
      QueueHistory (event :: past) after

/-- The lease id of the latest claim of a delivery, if one was made after its latest enqueue. -/
def holder (id : Uuid) : List QueueEvent → Option Uuid
  | [] => none
  | .enqueued task :: past => if task.deliveryId = id then none else holder id past
  | .claimed claim :: past => if claim.Returned id then some claim.leaseId else holder id past
  | .injected _ :: past => holder id past
  | .refused _ :: past => holder id past
  | .completed _ :: past => holder id past

/-- What one event makes of a slot: due anew, leased until the claim ends, gone, or as it was. -/
def QueueEvent.Leaves (id : Uuid) (before after : Option Slot) : QueueEvent → Prop
  | .enqueued task =>
    if task.deliveryId = id then ∃ due, after = some ⟨due, none⟩ else after = before
  | .claimed claim =>
    if claim.Returned id then
      ∃ slot ends, before = some slot ∧ slot.due ≤ claim.now ∧
        ends.nanos = claim.now.nanos + claim.lease.nanos ∧
        after = some ⟨ends, some claim.leaseId⟩
    else after = before
  | .completed lease =>
    after = if id = lease.deliveryId ∧ before.bind Slot.leaseId = some lease.leaseId then none
      else before
  | .injected _ => after = before
  | .refused _ => after = before

theorem QueueStep.leaves {queue after : MemoryQueue} {event : QueueEvent}
    (step : QueueStep queue event after) (id : Uuid) :
    event.Leaves id (queue.slots.find? id) (after.slots.find? id) := by
  cases step with
  | inject => rfl
  | @enqueue after task now made =>
    rcases queue.enqueue_cases task now with ⟨due, _, scheduled⟩ | ⟨reason, fault, failed⟩
    · obtain rfl := (Prod.mk.inj (made.symm.trans scheduled)).2
      simp only [QueueEvent.Leaves, Table.find?_put]
      split
      · rename_i same
        exact ⟨due, if_pos same.symm⟩
      · rename_i different
        exact if_neg (Ne.symm different)
    · cases (Prod.mk.inj (made.symm.trans failed)).1
  | @refuseEnqueue after task now error failed =>
    rcases queue.enqueue_cases task now with ⟨due, _, scheduled⟩ | ⟨reason, fault, refused⟩
    · cases (Prod.mk.inj (failed.symm.trans scheduled)).1
    · obtain rfl := (Prod.mk.inj (failed.symm.trans refused)).2
      rfl
  | @claim after most lease leaseId now leases made =>
    obtain ⟨ends, reached, returned, _, slots⟩ := MemoryQueue.claim_eq_ok made
    have picked : Claim.Returned ⟨now, lease, leaseId, leases⟩ id ↔ id ∈ queue.claimable most now := by
      simp [Claim.Returned, returned]
    simp only [QueueEvent.Leaves, picked, slots id]
    split
    · rename_i member
      obtain ⟨before, found, due⟩ := MemoryQueue.due_of_mem_claimable member
      exact ⟨before, ends, found, due, dueAt_eq_ok reached, rfl⟩
    · rfl
  | refuseClaim failed => rfl
  | complete lease => exact MemoryQueue.find?_complete _ _ _

namespace QueueHistory

variable {past later earlier : List QueueEvent} {queue : MemoryQueue}

/-- A leased slot bears the id of the claim that holds it. -/
theorem leaseId_eq_holder (history : QueueHistory past queue) (id : Uuid) :
    ∀ slot, queue.slots.find? id = some slot → slot.leaseId = holder id past := by
  induction history with
  | start =>
    intro slot found
    cases found
  | @next past queue event after history step fresh ih =>
    intro slot found
    have changed := step.leaves id
    cases event with
    | injected reason => exact ih slot (by rw [← found, changed])
    | refused call => exact ih slot (by rw [← found, changed])
    | enqueued task =>
      by_cases same : task.deliveryId = id
      · simp only [QueueEvent.Leaves, same, if_true] at changed
        obtain ⟨due, placed⟩ := changed
        cases placed.symm.trans found
        simp [holder, same]
      · simp only [QueueEvent.Leaves, same, if_false] at changed
        simpa [holder, same] using ih slot (changed.symm.trans found)
    | claimed claim =>
      by_cases returned : claim.Returned id
      · simp only [QueueEvent.Leaves, returned, if_true] at changed
        obtain ⟨before, ends, _, _, _, placed⟩ := changed
        cases placed.symm.trans found
        simp [holder, returned]
      · simp only [QueueEvent.Leaves, returned, if_false] at changed
        simpa [holder, returned] using ih slot (changed.symm.trans found)
    | completed lease =>
      rw [changed] at found
      split at found
      · cases found
      · exact ih slot found

/-- While a delivery is not enqueued again, its slot is not due before a claim of it ends. -/
theorem claim_ends_le {claim : Claim} {id : Uuid}
    (history : QueueHistory (later ++ .claimed claim :: earlier) queue)
    (returned : claim.Returned id)
    (unrenewed : ∀ task, .enqueued task ∈ later → task.deliveryId ≠ id) :
    ∀ slot, queue.slots.find? id = some slot →
      claim.now.nanos + claim.lease.nanos ≤ slot.due.nanos := by
  induction later generalizing queue with
  | nil =>
    cases history with
    | next history step fresh =>
      have changed := step.leaves id
      simp only [QueueEvent.Leaves, returned, if_true] at changed
      obtain ⟨before, ends, _, _, length, placed⟩ := changed
      intro slot found
      cases placed.symm.trans found
      exact Int.le_of_eq length.symm
  | cons event later ih =>
    cases history with
    | @next _ queue _ after history step fresh =>
      have kept := ih history fun task member => unrenewed task (List.mem_cons_of_mem _ member)
      have changed := step.leaves id
      intro slot found
      cases event with
      | injected reason => exact kept slot (by rw [← found, changed])
      | refused call => exact kept slot (by rw [← found, changed])
      | enqueued task =>
        have other := unrenewed task (List.mem_cons_self ..)
        simp only [QueueEvent.Leaves, other, if_false] at changed
        exact kept slot (changed.symm.trans found)
      | claimed second =>
        by_cases again : second.Returned id
        · simp only [QueueEvent.Leaves, again, if_true] at changed
          obtain ⟨before, ends, held, due, length, placed⟩ := changed
          cases placed.symm.trans found
          have bound := kept before held
          have reached : before.due.nanos ≤ second.now.nanos := due
          show _ ≤ ends.nanos
          omega
        · simp only [QueueEvent.Leaves, again, if_false] at changed
          exact kept slot (changed.symm.trans found)
      | completed lease =>
        rw [changed] at found
        split at found
        · cases found
        · exact kept slot found

/-- A task stays until it is completed under the latest claim since its latest enqueue. -/
theorem isSome_of_uncompleted {task : Task}
    (history : QueueHistory (later ++ .enqueued task :: earlier) queue)
    (uncompleted : ∀ newer lease older, later = newer ++ .completed lease :: older →
      lease.deliveryId = task.deliveryId →
      holder task.deliveryId (older ++ .enqueued task :: earlier) ≠ some lease.leaseId) :
    (queue.slots.find? task.deliveryId).isSome := by
  induction later generalizing queue with
  | nil =>
    cases history with
    | next history step fresh =>
      have changed := step.leaves task.deliveryId
      simp only [QueueEvent.Leaves, if_true] at changed
      obtain ⟨due, placed⟩ := changed
      simp [placed]
  | cons event later ih =>
    cases history with
    | @next _ before _ after history step fresh =>
      have kept := ih history fun newer lease older split =>
        uncompleted (event :: newer) lease older (by rw [split, List.cons_append])
      have changed := step.leaves task.deliveryId
      cases event with
      | injected reason => exact changed ▸ kept
      | refused call => exact changed ▸ kept
      | enqueued other =>
        by_cases same : other.deliveryId = task.deliveryId
        · simp only [QueueEvent.Leaves, same, if_true] at changed
          obtain ⟨due, placed⟩ := changed
          simp [placed]
        · simp only [QueueEvent.Leaves, same, if_false] at changed
          exact changed ▸ kept
      | claimed claim =>
        by_cases returned : claim.Returned task.deliveryId
        · simp only [QueueEvent.Leaves, returned, if_true] at changed
          obtain ⟨_, ends, _, _, _, placed⟩ := changed
          simp [placed]
        · simp only [QueueEvent.Leaves, returned, if_false] at changed
          exact changed ▸ kept
      | completed lease =>
        obtain ⟨slot, found⟩ := Option.isSome_iff_exists.mp kept
        have held := leaseId_eq_holder history _ slot found
        have unheld : ¬(task.deliveryId = lease.deliveryId ∧
            (before.slots.find? task.deliveryId).bind Slot.leaseId = some lease.leaseId) := by
          rintro ⟨same, holds⟩
          rw [found, Option.bind_some, held] at holds
          exact uncompleted [] lease later rfl same.symm holds
        rw [changed, if_neg unheld]
        exact kept

/-- A completion under the latest claim since the latest enqueue removes that task alone. -/
theorem complete_of_holder (history : QueueHistory past queue) {lease : Lease}
    (holds : holder lease.deliveryId past = some lease.leaseId) (id : Uuid) :
    (queue.complete lease).slots.find? id =
      if id = lease.deliveryId then none else queue.slots.find? id := by
  rw [MemoryQueue.find?_complete]
  by_cases same : id = lease.deliveryId
  · subst same
    cases found : queue.slots.find? lease.deliveryId with
    | none => simp
    | some slot => simp [leaseId_eq_holder history _ slot found, holds]
  · simp [same]

theorem complete_of_not_holder (history : QueueHistory past queue) {lease : Lease}
    (lost : holder lease.deliveryId past ≠ some lease.leaseId) : queue.complete lease = queue := by
  apply MemoryQueue.complete_eq_self
  cases found : queue.slots.find? lease.deliveryId with
  | none => simp
  | some slot => simpa [leaseId_eq_holder history _ slot found] using lost

theorem leaseId_ne {claim : Claim}
    (history : QueueHistory (later ++ .claimed claim :: earlier) queue) :
    ∀ newer, .claimed newer ∈ later → claim.leaseId ≠ newer.leaseId := by
  induction later generalizing queue with
  | nil =>
    intro newer member
    cases member
  | cons event later ih =>
    cases history with
    | next history step fresh =>
      intro newer member
      rcases List.mem_cons.mp member with latest | before
      · exact fresh newer latest.symm claim (by simp)
      · exact ih history newer before

end QueueHistory

/-- An event after which earlier leases of a delivery hold no more. -/
def QueueEvent.Renews (id : Uuid) : QueueEvent → Prop
  | .enqueued task => task.deliveryId = id
  | .claimed claim => claim.Returned id
  | .injected _ => False
  | .refused _ => False
  | .completed _ => False

/-- Who holds a renewed delivery has claimed it since. -/
theorem claimed_of_holder {id leaseId : Uuid} {later : List QueueEvent} (past : List QueueEvent)
    (renewed : ∃ event ∈ later, event.Renews id) (holds : holder id (later ++ past) = some leaseId) :
    ∃ claim, .claimed claim ∈ later ∧ claim.leaseId = leaseId := by
  induction later with
  | nil =>
    obtain ⟨event, member, _⟩ := renewed
    cases member
  | cons event later ih =>
    have later_of_inert (inert : ¬event.Renews id) : ∃ event ∈ later, event.Renews id := by
      obtain ⟨renewal, member, renews⟩ := renewed
      rcases List.mem_cons.mp member with same | before
      · exact absurd (same ▸ renews) inert
      · exact ⟨renewal, before, renews⟩
    have inherit (inert : ¬event.Renews id) (holds : holder id (later ++ past) = some leaseId) :
        ∃ claim, .claimed claim ∈ event :: later ∧ claim.leaseId = leaseId := by
      obtain ⟨claim, member, same⟩ := ih (later_of_inert inert) holds
      exact ⟨claim, List.mem_cons_of_mem _ member, same⟩
    cases event with
    | injected reason => exact inherit not_false holds
    | refused call => exact inherit not_false holds
    | completed lease => exact inherit not_false holds
    | enqueued task =>
      by_cases same : task.deliveryId = id
      · simp [holder, same] at holds
      · exact inherit same (by simpa [holder, same] using holds)
    | claimed claim =>
      by_cases returned : claim.Returned id
      · exact ⟨claim, List.mem_cons_self .., by simpa [holder, returned] using holds⟩
      · exact inherit returned (by simpa [holder, returned] using holds)

/-- What a history of calls promises those who hold leases, and those who hold none any more. -/
structure LeaseSafety (past : List QueueEvent) (queue : MemoryQueue) : Prop where
  exclusive : ∀ later (second : Claim) between (first : Claim) earlier id,
    past = later ++ .claimed second :: (between ++ .claimed first :: earlier) →
    first.Returned id → second.Returned id →
    (∀ task, .enqueued task ∈ between → task.deliveryId ≠ id) →
    first.now.nanos + first.lease.nanos ≤ second.now.nanos
  kept : ∀ later task earlier, past = later ++ .enqueued task :: earlier →
    (∀ newer lease older, later = newer ++ .completed lease :: older →
      lease.deliveryId = task.deliveryId →
      holder task.deliveryId (older ++ .enqueued task :: earlier) ≠ some lease.leaseId) →
    (queue.slots.find? task.deliveryId).isSome
  released : ∀ lease, holder lease.deliveryId past = some lease.leaseId →
    ∀ id, (queue.complete lease).slots.find? id =
      if id = lease.deliveryId then none else queue.slots.find? id
  inert : ∀ lease, holder lease.deliveryId past ≠ some lease.leaseId →
    queue.complete lease = queue
  stale : ∀ later claim earlier id, past = later ++ .claimed claim :: earlier →
    (∃ event ∈ later, event.Renews id) → queue.complete ⟨id, claim.leaseId⟩ = queue
  answered : ∀ most lease leaseId now ends, dueAt now lease = .ok ends →
    ∃ leases after, queue.claim most lease leaseId now = .ok (leases, after)
  picked : ∀ most lease leaseId now leases after,
    queue.claim most lease leaseId now = .ok (leases, after) → queue.Picked most lease leaseId now
      leases after
  refused : ∀ (deployment : Deployment) call error, deployment.queue = queue →
    (deployment.callQueue call).1 = .error error →
    (deployment.callQueue call).2.queue.slots = queue.slots ∧
      (deployment.callQueue call).2.queue.history = queue.history

private theorem callQueue_refused (deployment : Deployment) (call : QueueCall)
    {error : DeliveryError} (failed : (deployment.callQueue call).1 = .error error) :
    (deployment.callQueue call).2.queue.slots = deployment.queue.slots ∧
      (deployment.callQueue call).2.queue.history = deployment.queue.history := by
  cases call with
  | enqueue task =>
    simp only [Deployment.callQueue] at failed ⊢
    rcases deployment.queue.enqueue_cases task deployment.clock.now with
      ⟨due, _, scheduled⟩ | ⟨reason, fault, refused⟩
    · rw [scheduled] at failed
      cases failed
    · rw [refused]
      exact ⟨rfl, rfl⟩
  | claim most lease =>
    simp only [Deployment.callQueue] at failed ⊢
    split at failed
    · cases failed
    · exact ⟨rfl, rfl⟩
  | complete lease => cases failed

theorem QueueHistory.leaseSafety {past : List QueueEvent} {queue : MemoryQueue}
    (history : QueueHistory past queue) : LeaseSafety past queue where
  exclusive := by
    intro later second between first earlier id split firstReturned secondReturned unrenewed
    subst split
    induction later generalizing queue with
    | nil =>
      cases history with
      | next history step fresh =>
        have changed := step.leaves id
        simp only [QueueEvent.Leaves, secondReturned, if_true] at changed
        obtain ⟨slot, _, found, due, _, _⟩ := changed
        have bound := history.claim_ends_le firstReturned unrenewed slot found
        have reached : slot.due.nanos ≤ second.now.nanos := due
        omega
    | cons event later ih =>
      cases history with
      | next history step fresh => exact ih history
  kept := by
    intro later task earlier split uncompleted
    subst split
    exact history.isSome_of_uncompleted uncompleted
  released _ holds := history.complete_of_holder holds
  inert _ lost := history.complete_of_not_holder lost
  stale := by
    intro later claim earlier id split renewed
    subst split
    apply history.complete_of_not_holder
    intro holds
    obtain ⟨newer, member, same⟩ := claimed_of_holder _ renewed holds
    exact history.leaseId_ne newer member same.symm
  answered _ _ _ _ _ reached := ⟨_, _, by rw [MemoryQueue.claim, reached]; rfl⟩
  picked _ _ _ _ _ _ made := MemoryQueue.picked_of_claim made
  refused deployment call _ same failed := same ▸ callQueue_refused deployment call failed

/-- A lease that ran out is taken over by the next claim, and its holder comes too late. -/
def takeover : List QueueEvent :=
  [.completed ⟨⟨7⟩, ⟨1⟩⟩, .claimed ⟨⟨10⟩, ⟨10⟩, ⟨2⟩, [⟨⟨7⟩, ⟨2⟩⟩]⟩,
    .claimed ⟨⟨0⟩, ⟨10⟩, ⟨1⟩, [⟨⟨7⟩, ⟨1⟩⟩]⟩, .enqueued (.now ⟨7⟩)]

def queueOf (slot : Slot) : MemoryQueue :=
  ⟨⟨[(⟨7⟩, slot)], by simp⟩, [.now ⟨7⟩], none⟩

theorem leaseSafety_takeover :
    QueueHistory takeover (queueOf ⟨⟨20⟩, some ⟨2⟩⟩) ∧
      LeaseSafety takeover (queueOf ⟨⟨20⟩, some ⟨2⟩⟩) := by
  have scheduled : MemoryQueue.empty.enqueue (.now ⟨7⟩) ⟨0⟩ =
      (.ok (), queueOf ⟨⟨0⟩, none⟩) := rfl
  have waiting : (queueOf ⟨⟨0⟩, none⟩).claimable 1 ⟨0⟩ = [⟨7⟩] := by decide +kernel
  have expired : (queueOf ⟨⟨10⟩, some ⟨1⟩⟩).claimable 1 ⟨10⟩ = [⟨7⟩] := by decide +kernel
  have leased : (queueOf ⟨⟨0⟩, none⟩).claim 1 ⟨10⟩ ⟨1⟩ ⟨0⟩ =
      .ok ([⟨⟨7⟩, ⟨1⟩⟩], queueOf ⟨⟨10⟩, some ⟨1⟩⟩) := by
    simp only [MemoryQueue.claim, waiting]
    rfl
  have taken : (queueOf ⟨⟨10⟩, some ⟨1⟩⟩).claim 1 ⟨10⟩ ⟨2⟩ ⟨10⟩ =
      .ok ([⟨⟨7⟩, ⟨2⟩⟩], queueOf ⟨⟨20⟩, some ⟨2⟩⟩) := by
    simp only [MemoryQueue.claim, expired]
    rfl
  have late : (queueOf ⟨⟨20⟩, some ⟨2⟩⟩).complete ⟨⟨7⟩, ⟨1⟩⟩ = queueOf ⟨⟨20⟩, some ⟨2⟩⟩ := rfl
  have first := QueueHistory.next .start (.enqueue scheduled) (by simp)
  have second := first.next (.claim leased) (by simp)
  have third := second.next (.claim taken) (by simp)
  have history : QueueHistory takeover (queueOf ⟨⟨20⟩, some ⟨2⟩⟩) := by
    have last := third.next (.complete ⟨⟨7⟩, ⟨1⟩⟩) (by simp)
    rwa [late] at last
  exact ⟨history, history.leaseSafety⟩

end HookRelay
