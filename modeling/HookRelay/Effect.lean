import HookRelay.Delivery.Event
import HookRelay.Delivery.Outcome
import HookRelay.Http.Message
import HookRelay.Queue
import HookRelay.Store

namespace HookRelay

inductive Effect where
  | now
  | sleep (duration : Duration)
  | isCancelled
  | newDeliveryId
  | drawJitter
  | store (call : StoreCall)
  | queue (call : QueueCall)
  | send (request : DeliveryRequest)
  | publish (event : DeliveryEvent)
  | tally (result : Except DeliveryError Outcome)
  | halt

namespace Effect

/-- What an effect gives; a draw lies between minus one and one, and a halted program does not go
on. -/
def Reply : Effect → Type
  | now => Instant
  | sleep _ => Unit
  | isCancelled => Bool
  | newDeliveryId => Uuid
  | drawJitter => Binary64
  | store call => Except StoreError call.Reply
  | queue call => Except DeliveryError call.Reply
  | send _ => Except DeliveryError DeliveryResponse
  | publish _ => Unit
  | tally _ => Unit
  | halt => Empty

end Effect

def Relay : Interface := ⟨Effect, Effect.Reply⟩

abbrev Action (α : Type) := ExceptT DeliveryError (Program Relay) α

namespace Action

def perform (effect : Effect) : Action effect.Reply :=
  ExceptT.lift (.step effect .done : Program Relay effect.Reply)

def store (call : StoreCall) : Action call.Reply :=
  .mk (.step (.store call) fun reply => .done (reply.mapError .ofStore) :
    Program Relay (Except DeliveryError call.Reply))

def queue (call : QueueCall) : Action call.Reply :=
  .mk (.step (.queue call) .done : Program Relay (Except DeliveryError call.Reply))

def halt : Action α :=
  .mk (.step .halt nofun : Program Relay (Except DeliveryError α))

/-- Runs an action for its result, whether it is a value or an error. -/
def result (action : Action α) : Program Relay (Except DeliveryError α) := action.run

end Action

end HookRelay
