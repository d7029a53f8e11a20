import HookRelay.Queue
import HookRelay.Table

namespace HookRelay

structure MemoryQueue where
  slots : Table Uuid Slot
  history : List Task
  fault : Option String

namespace MemoryQueue

def empty : MemoryQueue := ⟨.empty, [], none⟩

/-- Schedules a task, in place of an earlier one for the same delivery and of any lease on it. -/
def enqueue (queue : MemoryQueue) (task : Task) (now : Instant) :
    Except DeliveryError Unit × MemoryQueue :=
  match queue.fault with
  | some reason => (.error (.queue reason), { queue with fault := none })
  | none =>
    match dueAt now task.delay with
    | .error error => (.error error, queue)
    | .ok due =>
      (.ok (), { queue with
        slots := queue.slots.put task.deliveryId ⟨due, none⟩
        history := queue.history ++ [task] })

/-- Earlier ones first, and of those due together the lesser id. -/
def before (left right : Uuid × Slot) : Bool :=
  left.2.due < right.2.due || (left.2.due = right.2.due && left.1 ≤ right.1)

/-- The deliveries to claim at `now`, in order, when at most `most` are wanted. -/
def claimable (queue : MemoryQueue) (most : Nat) (now : Instant) : List Uuid :=
  (((queue.slots.rows.filter fun row => row.2.due ≤ now).mergeSort before).map Prod.fst).take most

def claim (queue : MemoryQueue) (most : Nat) (lease : Duration) (leaseId : Uuid) (now : Instant) :
    Except DeliveryError (List Lease × MemoryQueue) :=
  (dueAt now lease).map fun leasedUntil =>
    let claimed := queue.claimable most now
    (claimed.map fun id => ⟨id, leaseId⟩,
      { queue with
        slots := claimed.foldl (fun slots id => slots.put id ⟨leasedUntil, some leaseId⟩)
          queue.slots })

/-- Removes a leased task; a lease that no longer holds removes nothing. -/
def complete (queue : MemoryQueue) (lease : Lease) : MemoryQueue :=
  match queue.slots.find? lease.deliveryId with
  | some slot =>
    if slot.leaseId = some lease.leaseId then
      { queue with slots := queue.slots.erase lease.deliveryId }
    else queue
  | none => queue

end MemoryQueue

end HookRelay
