import HookRelay.Queue
import HookRelay.Sql.Row
import HookRelay.Store

namespace HookRelay.Sql

/-- Statements that hand in one row answer with its id. -/
private def insertReturningId (relation : Relation) (columns : List String)
    (values : Except StoreError (List Value)) : Query Uuid := do
  let answer ← Query.send (.insert relation columns (← MonadExcept.ofExcept values))
  match answer.rows with
  | [] => throw (.ofSql .noRow)
  | row :: _ => Query.ofExcept (row.get "id" Row.uuid?)

private def first (decode : Row → Except Error α) (answer : Answer) : Query (Option α) :=
  match answer.rows with
  | [] => pure none
  | row :: _ => Query.ofExcept ((decode row).map some)

private def expectRow (what : String) (answer : Answer) : Query Unit :=
  if answer.affected = 0 then throw (.notFound what) else pure ()

def createSubscription (subscription : Subscription) : Query Uuid :=
  insertReturningId .subscriptions subscriptionColumns (subscriptionValues subscription)

def createDelivery (record : DeliveryRecord) : Query Uuid :=
  insertReturningId .deliveries deliveryColumns (deliveryValues record)

private def subscriptions (condition : Condition) : Query (List Subscription) := do
  let answer ← Query.send (.select .subscriptions subscriptionColumns condition)
  Query.ofExcept (answer.rows.mapM subscriptionOfRow)

def findSubscription (id : Uuid) : Query (Option Subscription) := do
  first subscriptionOfRow (← Query.send (.select .subscriptions subscriptionColumns (.withId id)))

def saveSubscription (subscription : Subscription) : Query Unit := do
  let values ← MonadExcept.ofExcept (savedValues subscription)
  expectRow ("subscription " ++ subscription.id.text)
    (← Query.send (.update .subscriptions subscription.id savedColumns values))

def clearExpiredPrevious (id : Uuid) (now : Instant) : Query Bool := do
  let answer ← Query.send (.clearExpiredPrevious id now)
  pure (0 < answer.affected)

def increment (id : Uuid) (counter : Counter) (now : Instant) : Query Unit := do
  expectRow ("subscription " ++ id.text) (← Query.send (.increment counter id now))

def findDelivery (id : Uuid) : Query (Option DeliveryRecord) := do
  first recordOfRow (← Query.send (.select .deliveries deliveryColumns (.withId id)))

def saveDelivery (record : DeliveryRecord) : Query Unit := do
  let values ← MonadExcept.ofExcept (progressValues record)
  expectRow ("delivery " ++ record.id.text)
    (← Query.send (.update .deliveries record.id progressColumns values))

def answer : (call : StoreCall) → Query call.Reply
  | .findSubscription id => findSubscription id
  | .saveSubscription subscription => saveSubscription subscription
  | .subscriptionsForEvent eventType => subscriptions (.listensTo eventType)
  | .subscriptionsWithPreviousSecret => subscriptions .hasPreviousSecret
  | .clearExpiredPrevious id now => clearExpiredPrevious id now
  | .findDelivery id => findDelivery id
  | .createDelivery record => do
    let _ ← createDelivery record
  | .saveDelivery record => saveDelivery record
  | .increment id counter now => increment id counter now

def healthCheck : Query Unit := do
  let answer ← Query.send .ping
  if answer.rows.isEmpty then throw (.ofSql .noRow) else pure ()

/-! Scheduled attempts. -/

def schedule (deliveryId : Uuid) (due : Instant) : Query Unit := do
  let _ ← Query.send (.schedule deliveryId due)

def claimDue (now leasedUntil : Instant) (leaseId : Uuid) (most : Nat) : Query (List Uuid) := do
  let answer ← Query.send (.claim now leasedUntil leaseId most)
  Query.ofExcept (answer.rows.mapM fun row => row.get "delivery_id" Row.uuid?)

/-- Removes a task that is still held under the lease; tells whether it was. -/
def completeTask (deliveryId leaseId : Uuid) : Query Bool := do
  let answer ← Query.send (.release deliveryId leaseId)
  pure (0 < answer.affected)

def countTasks : Query Int := do
  let answer ← Query.send .countTasks
  match answer.rows with
  | [] => throw (.ofSql .noRow)
  | row :: _ => Query.ofExcept (row.get "count" Row.integer?)

/-- A query of the queue, which has errors of its own. -/
private def queued (query : Query α) : ExceptT DeliveryError (Program Session) α :=
  query.adapt fun error => .queue error.message

/-- Answers what is asked of a queue at `now`; a claim goes by the lease id that was drawn for it.
-/
def answerQueue (now : Instant) (leaseId : Uuid) :
    (call : QueueCall) → ExceptT DeliveryError (Program Session) call.Reply
  | .enqueue task => do
    let due ← MonadExcept.ofExcept (dueAt now task.delay)
    queued (schedule task.deliveryId due)
  | .claim most lease => do
    let leasedUntil ← MonadExcept.ofExcept (dueAt now lease)
    let ids ← queued (claimDue now leasedUntil leaseId most)
    pure (ids.map fun id => (⟨id, leaseId⟩ : Lease))
  | .complete lease => do
    let _ ← queued (completeTask lease.deliveryId lease.leaseId)

end HookRelay.Sql
