import HookRelay.Http.Client
import HookRelay.Memory.Queue
import HookRelay.Memory.Store
import HookRelay.Memory.Supply
import HookRelay.Worker

/-!
A deployment in memory: a store, a queue, a clock that moves only when told to and a receiver that
follows a script. It answers every effect of the relay and keeps a log of what was sent, published
and slept.
-/
namespace HookRelay

inductive Disturbance where
  | advance (duration : Duration)
  | edit (subscription : Subscription)
  | failStore (operation : StoreOperation) (reason : String)
  | failEnqueue (reason : String)

structure Reaction where
  meanwhile : List Disturbance
  exchange : Option Exchange

structure Receiver where
  reachable : Bool
  script : List Reaction
  log : List WireRequest

structure Deployment where
  clock : ManualClock
  store : MemoryStore
  queue : MemoryQueue
  ids : IdSupply
  leases : Nat
  client : ClientSettings
  receiver : Receiver
  events : List DeliveryEvent
  stats : WorkerStats
  sleeps : List Duration
  mostSleeps : Option Nat
  awaitedEdit : Option Subscription
  hangs : Bool

namespace Deployment

def start (clock : ManualClock) (ids : IdSupply) (client : ClientSettings) (receiver : Receiver) :
    Deployment where
  clock := clock
  store := .empty
  queue := .empty
  ids := ids
  leases := 0
  client := client
  receiver := receiver
  events := []
  stats := .zero
  sleeps := []
  mostSleeps := none
  awaitedEdit := none
  hangs := false

def disturb (deployment : Deployment) : Disturbance → Deployment
  | .advance duration => { deployment with clock := deployment.clock.advance duration }
  | .edit subscription =>
    { deployment with store := deployment.store.putSubscription subscription }
  | .failStore operation reason =>
    { deployment with store := deployment.store.inject operation reason }
  | .failEnqueue reason =>
    { deployment with queue := { deployment.queue with fault := some reason } }

/-- Once the script is used up, every request is accepted without a body. -/
def lastReaction : Reaction := ⟨[], some (.answered ⟨200, none, []⟩)⟩

/-- Nobody listens on the first port of the local host. -/
def isClosed (url : Url) : Bool := url.host = some "127.0.0.1".toList && url.port = some 1

def exchange (request : WireRequest) (deployment : Deployment) : Option Exchange × Deployment :=
  let receiver := deployment.receiver
  if !receiver.reachable || isClosed request.url then (some .refused, deployment)
  else
    let reaction := receiver.script.headD lastReaction
    let deployment := { deployment with
      receiver := ⟨true, receiver.script.drop 1, receiver.log ++ [request]⟩ }
    let deployment := reaction.meanwhile.foldl disturb deployment
    (reaction.exchange, { deployment with hangs := deployment.hangs || reaction.exchange.isNone })

def wire : Program.World Wire Deployment := exchange

/-- An owner's edit that waits for the clock to be read lands just before that. -/
def readClock (deployment : Deployment) : Instant × Deployment :=
  let store := match deployment.awaitedEdit with
    | some subscription => deployment.store.putSubscription subscription
    | none => deployment.store
  (deployment.clock.now, { deployment with store := store, awaitedEdit := none })

/-- Lease ids are numbered, so that none comes twice. -/
def callQueue (deployment : Deployment) :
    (call : QueueCall) → Except DeliveryError call.Reply × Deployment
  | .enqueue task =>
    let (result, queue) := deployment.queue.enqueue task deployment.clock.now
    (result, { deployment with queue := queue })
  | .claim most lease =>
    match deployment.queue.claim most lease ⟨deployment.leases⟩ deployment.clock.now with
    | .ok (leases, queue) =>
      (.ok leases, { deployment with queue := queue, leases := deployment.leases + 1 })
    | .error error => (.error error, deployment)
  | .complete lease => (.ok (), { deployment with queue := deployment.queue.complete lease })

def answer : Program.World Relay Deployment
  | .now, deployment => let (now, deployment) := deployment.readClock; (some now, deployment)
  | .sleep duration, deployment =>
    (some (), { deployment with
      clock := deployment.clock.advance duration
      sleeps := deployment.sleeps ++ [duration] })
  | .isCancelled, deployment =>
    (some (deployment.mostSleeps.any fun most => most ≤ deployment.sleeps.length), deployment)
  | .newDeliveryId, deployment =>
    let (id, ids) := deployment.ids.next
    (some id, { deployment with ids := ids })
  | .drawJitter, deployment => (some (Binary64.zero false), deployment)
  | .store call, deployment =>
    let (reply, store) := deployment.store.call call
    (reply, { deployment with store := store })
  | .queue call, deployment =>
    let (reply, deployment) := deployment.callQueue call
    (some reply, deployment)
  | .send request, deployment => (Client.deliver deployment.client request).run wire deployment
  | .publish event, deployment =>
    (some (), { deployment with events := deployment.events ++ [event] })
  | .tally result, deployment =>
    match deployment.stats.record? result with
    | some stats => (some (), { deployment with stats := stats })
    | none => (none, deployment)
  | .halt, deployment => (none, deployment)

def run (deployment : Deployment) (action : Action α) :
    Option (Except DeliveryError α) × Deployment :=
  action.result.run answer deployment

end Deployment

end HookRelay
