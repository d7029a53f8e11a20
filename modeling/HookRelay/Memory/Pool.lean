import HookRelay.Memory.Deployment

namespace HookRelay

/-- What a pool did: how many workers it started, what they counted, how they slept, and whether
one of them could not be stopped. -/
structure PoolReport where
  started : Nat
  stats : WorkerStats
  sleeps : List Duration
  isStuck : Bool

namespace Deployment

/-- The deployment as a loop finds it that is cancelled after a number of sleeps. -/
def enterLoop (deployment : Deployment) (mostSleeps : Nat) : Deployment :=
  { deployment with sleeps := [], mostSleeps := some mostSleeps }

/-- The deployment after such a loop, when it was as in `before`. -/
def leaveLoop (deployment before : Deployment) : Deployment :=
  { deployment with
    stats := before.stats
    sleeps := before.sleeps
    mostSleeps := before.mostSleeps
    hangs := before.hangs }

/-- Lets `workers` workers work until they have slept `mostSleeps` times. Those that start after
that have nothing left to do, so one of them stands for all. A pool keeps statistics of its own,
and the clock is only moved by a worker that is alone. -/
def runPool (deployment : Deployment) (settings : WorkerSettings) (policy : RetryPolicy)
    (workers mostSleeps turns : Nat) : PoolReport × Deployment :=
  let entered := { deployment.enterLoop mostSleeps with
    stats := { WorkerStats.zero with activeWorkers := workers }, hangs := false }
  let after := if workers = 0 then entered
    else ((Worker.run settings policy turns).run answer entered).2
  let left := after.leaveLoop deployment
  (⟨workers, after.stats, after.sleeps, after.hangs⟩,
    if settings.workerCount = 1 then left else { left with clock := deployment.clock })

end Deployment

def runLengths [DecidableEq α] : List α → List (α × Nat)
  | [] => []
  | item :: rest =>
    match runLengths rest with
    | (other, count) :: runs =>
      if item = other then (item, count + 1) :: runs else (item, 1) :: (other, count) :: runs
    | [] => [(item, 1)]

end HookRelay
