import HookRelay.Delivery.Error

/-!
The queue of deliveries to attempt. A claimed task stays queued, hidden until its lease ends;
whoever holds the lease removes it.
-/
namespace HookRelay

structure Task where
  deliveryId : Uuid
  delay : Duration
deriving DecidableEq, Repr

def Task.now (deliveryId : Uuid) : Task := ⟨deliveryId, .zero⟩

/-- When a delivery can next be claimed, and the claim it belongs to while it is leased. -/
structure Slot where
  due : Instant
  leaseId : Option Uuid
deriving DecidableEq, Repr

structure Lease where
  deliveryId : Uuid
  leaseId : Uuid
deriving DecidableEq, Repr

inductive QueueCall where
  | enqueue (task : Task)
  | claim (most : Nat) (lease : Duration)
  | complete (lease : Lease)
deriving DecidableEq, Repr

def QueueCall.Reply : QueueCall → Type
  | enqueue _ => Unit
  | claim .. => List Lease
  | complete _ => Unit

/-- When a task becomes due, if the calendar reaches it. -/
def dueAt (now : Instant) (delay : Duration) : Except DeliveryError Instant :=
  match now.later? delay with
  | some due => .ok due
  | none => .error (.queue ("delay out of range: " ++ delay.text))

theorem dueAt_eq_ok {now due : Instant} {delay : Duration} (reached : dueAt now delay = .ok due) :
    due.nanos = now.nanos + delay.nanos := by
  unfold dueAt at reached
  split at reached
  · rename_i later found
    cases reached
    exact Instant.later?_eq_some found
  · cases reached

theorem dueAt_eq_error {now : Instant} {delay : Duration} {error : DeliveryError}
    (failed : dueAt now delay = .error error) : ∃ reason, error = .queue reason := by
  unfold dueAt at failed
  split at failed
  · cases failed
  · cases failed
    exact ⟨_, rfl⟩

end HookRelay
