import HookRelay.Config.Settings
import HookRelay.Dispatch

/-!
Workers: each claims due deliveries, works on them one by one and gives up its lease on those that
are settled. A delivery whose processing failed stays leased, and is claimed again when the lease
ends.
-/
namespace HookRelay

structure WorkerStats where
  activeWorkers : Nat
  processed : Nat
  succeeded : Nat
  failed : Nat
  exhausted : Nat
  errors : Nat
deriving DecidableEq, Repr

namespace WorkerStats

def zero : WorkerStats := ⟨0, 0, 0, 0, 0, 0⟩

def record (stats : WorkerStats) (result : Except DeliveryError Outcome) : WorkerStats :=
  let stats := { stats with processed := stats.processed + 1 }
  match result with
  | .ok (.delivered _) => { stats with succeeded := stats.succeeded + 1 }
  | .ok (.retryScheduled ..) => { stats with failed := stats.failed + 1 }
  | .ok (.exhausted _) =>
    { stats with failed := stats.failed + 1, exhausted := stats.exhausted + 1 }
  | .ok (.skipped _) => stats
  | .error _ => { stats with errors := stats.errors + 1 }

/-- Every count is one that sixty-four bits hold. -/
def Fits (stats : WorkerStats) : Prop :=
  stats.processed ≤ Counter.greatest ∧ stats.succeeded ≤ Counter.greatest ∧
    stats.failed ≤ Counter.greatest ∧ stats.exhausted ≤ Counter.greatest ∧
    stats.errors ≤ Counter.greatest

instance (stats : WorkerStats) : Decidable stats.Fits :=
  inferInstanceAs (Decidable (_ ∧ _ ∧ _ ∧ _ ∧ _))

/-- None where a count would go past the greatest, which stops the worker. -/
def record? (stats : WorkerStats) (result : Except DeliveryError Outcome) : Option WorkerStats :=
  if (stats.record result).Fits then some (stats.record result) else none

theorem record?_eq_some {stats counted : WorkerStats} {result : Except DeliveryError Outcome}
    (recorded : stats.record? result = some counted) : counted = stats.record result := by
  rw [record?, Option.ite_none_right_eq_some] at recorded
  exact (Option.some.inj recorded.2).symm

end WorkerStats

namespace Worker

open HookRelay.Action

/-- Errors that no retry can mend, because what the task is about does not exist. -/
def isDangling : DeliveryError → Bool
  | .deliveryNotFound _ => true
  | .subscriptionNotFound _ => true
  | _ => false

def isSettled : Except DeliveryError Outcome → Bool
  | .ok _ => true
  | .error error => isDangling error

def processOne (policy : RetryPolicy) (lease : Lease) : Program Relay Unit := do
  let result ← (Dispatch.process policy lease.deliveryId).result
  if isSettled result then
    let _ ← (queue (.complete lease)).result
    .step (.tally result) .done
  else .step (.tally result) .done

def processEach (policy : RetryPolicy) : List Lease → Program Relay Unit
  | [] => pure ()
  | lease :: rest => do
    processOne policy lease
    processEach policy rest

def batch (settings : WorkerSettings) (policy : RetryPolicy) : Action Nat := do
  let leases ← queue (.claim settings.batchSize settings.leaseDuration)
  ExceptT.lift (processEach policy leases)
  pure leases.length

/-- The rest after a batch that could not be claimed. -/
def errorBackoff : Duration := .ofSeconds 5

def restAfter (settings : WorkerSettings) : Except DeliveryError Nat → Option Duration
  | .ok 0 => some settings.pollInterval
  | .ok _ => none
  | .error _ => some errorBackoff

/-- Claims batch after batch until cancelled, or until `turns` of them are done. -/
def run (settings : WorkerSettings) (policy : RetryPolicy) : Nat → Program Relay Unit
  | 0 => pure ()
  | turns + 1 => .step .isCancelled fun (cancelled : Bool) =>
    if cancelled then pure ()
    else do
      match restAfter settings (← (batch settings policy).result) with
      | some rest => .step (.sleep rest) fun _ => run settings policy turns
      | none => run settings policy turns

def settingsFault? (settings : WorkerSettings) : Option DeliveryError :=
  if settings.workerCount = 0 || settings.batchSize = 0 then
    some (.configuration "worker_count and batch_size must be greater than zero")
  else if settings.leaseDuration.nanos = 0 then
    some (.configuration "lease_duration must be greater than zero")
  else none

end Worker

end HookRelay
