import HookRelay.Effect
import HookRelay.Subscription.Rotation

/-!
The sweep that removes previous secrets once they have expired. Verification passes over them
anyway; the sweep only keeps what is stored tidy.
-/
namespace HookRelay.Sweep

open HookRelay.Action

/-- Whether a subscription, as it was loaded, has a previous secret to clear. -/
def isDue (subscription : Subscription) (now : Instant) : Bool :=
  match subscription.clearExpired now with
  | .ok (some _) => true
  | _ => false

/-- Clears those that are due, if the store still holds them to be, and counts them. -/
def clearEach (now : Instant) : List Subscription → Program Relay Nat
  | [] => pure 0
  | subscription :: rest =>
    if isDue subscription now then do
      let cleared ← (store (.clearExpiredPrevious subscription.id now)).result
      let others ← clearEach now rest
      pure (match cleared with
        | .ok true => others + 1
        | _ => others)
    else clearEach now rest

/-- One sweep; gives how many previous secrets it cleared. -/
def once : Action Nat := do
  let candidates ← store .subscriptionsWithPreviousSecret
  let now ← perform .now
  ExceptT.lift (clearEach now candidates)

/-- Sweeps now and after every interval until cancelled, or until `turns` sweeps are done. -/
def run (interval : Duration) : Nat → Program Relay Unit
  | 0 => pure ()
  | turns + 1 => do
    let _ ← once.result
    .step (.sleep interval) fun _ =>
      .step .isCancelled fun (cancelled : Bool) => if cancelled then pure () else run interval turns

end HookRelay.Sweep
