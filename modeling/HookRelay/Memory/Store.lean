import HookRelay.Store
import HookRelay.Table

namespace HookRelay

structure MemoryStore where
  subscriptions : Table Uuid Subscription
  deliveries : Table Uuid DeliveryRecord
  faults : Table StoreOperation String

namespace MemoryStore

def empty : MemoryStore := ⟨.empty, .empty, .empty⟩

def putSubscription (store : MemoryStore) (subscription : Subscription) : MemoryStore :=
  { store with subscriptions := store.subscriptions.put subscription.id subscription }

def putDelivery (store : MemoryStore) (record : DeliveryRecord) : MemoryStore :=
  { store with deliveries := store.deliveries.put record.id record }

def inject (store : MemoryStore) (operation : StoreOperation) (reason : String) : MemoryStore :=
  { store with faults := store.faults.put operation reason }

def deliveriesFor (store : MemoryStore) (subscriptionId : Uuid) : List DeliveryRecord :=
  store.deliveries.values.filter fun record => record.subscriptionId = subscriptionId

def listeners (store : MemoryStore) (eventType : String) : List Subscription :=
  (store.subscriptions.values.filter fun subscription =>
    subscription.isActive && subscription.subscribesTo eventType).mergeSort
      fun left right => left.createdAt ≤ right.createdAt

def saveSubscription (store : MemoryStore) (subscription : Subscription) :
    Except StoreError MemoryStore :=
  match store.subscriptions.find? subscription.id with
  | none => .error (.notFound ("subscription " ++ subscription.id.text))
  | some stored => .ok (store.putSubscription (subscription.savedOver stored))

def clearExpiredPrevious (store : MemoryStore) (id : Uuid) (now : Instant) : Bool × MemoryStore :=
  match store.subscriptions.find? id with
  | none => (false, store)
  | some stored =>
    if stored.previousHasExpired now then (true, store.putSubscription (stored.withoutPrevious now))
    else (false, store)

/-- A delivery needs its subscription, and an id of its own. -/
def createDelivery (store : MemoryStore) (record : DeliveryRecord) :
    Except StoreError MemoryStore :=
  if (store.subscriptions.find? record.subscriptionId).isNone then
    .error (.constraintViolation ("foreign key constraint violation: subscription " ++
      record.subscriptionId.text ++ " does not exist"))
  else if (store.deliveries.find? record.id).isSome then
    .error (.constraintViolation ("unique constraint violation: delivery " ++ record.id.text))
  else .ok (store.putDelivery record)

def saveDelivery (store : MemoryStore) (record : DeliveryRecord) : Except StoreError MemoryStore :=
  match store.deliveries.find? record.id with
  | none => .error (.notFound ("delivery " ++ record.id.text))
  | some _ => .ok (store.putDelivery record)

/-- Counts one more result; a total that is full already stops the program. -/
def increment (store : MemoryStore) (id : Uuid) (counter : Counter) (now : Instant) :
    Option (Except StoreError MemoryStore) :=
  match store.subscriptions.find? id with
  | none => some (.error (.notFound ("subscription " ++ id.text)))
  | some stored =>
    (stored.count? counter now).map fun counted => .ok (store.putSubscription counted)

private def settle (store : MemoryStore) : Except StoreError MemoryStore →
    Except StoreError Unit × MemoryStore
  | .ok changed => (.ok (), changed)
  | .error error => (.error error, store)

/-- Answers a call that is not made to fail, if it does not stop the program. -/
def answer? (store : MemoryStore) :
    (call : StoreCall) → Option (Except StoreError call.Reply × MemoryStore)
  | .findSubscription id => some (.ok (store.subscriptions.find? id), store)
  | .saveSubscription subscription => some (store.settle (store.saveSubscription subscription))
  | .subscriptionsForEvent eventType => some (.ok (store.listeners eventType), store)
  | .subscriptionsWithPreviousSecret =>
    some (.ok (store.subscriptions.values.filter fun subscription =>
      subscription.previousSecret.isSome), store)
  | .clearExpiredPrevious id now =>
    let (cleared, store) := store.clearExpiredPrevious id now
    some (.ok cleared, store)
  | .findDelivery id => some (.ok (store.deliveries.find? id), store)
  | .createDelivery record => some (store.settle (store.createDelivery record))
  | .saveDelivery record => some (store.settle (store.saveDelivery record))
  | .increment id counter now => (store.increment id counter now).map store.settle

/-- Answers a call, or stops the program; a fault of its operation is used up by it and leaves all
else as it was. -/
def call (store : MemoryStore) (call : StoreCall) :
    Option (Except StoreError call.Reply) × MemoryStore :=
  match call.operation?.bind fun operation =>
      (store.faults.find? operation).map fun reason => (operation, reason) with
  | some (operation, reason) =>
    (some (.error (.database reason)), { store with faults := store.faults.erase operation })
  | none =>
    match store.answer? call with
    | some (reply, store) => (some reply, store)
    | none => (none, store)

variable {store after : MemoryStore} {record : DeliveryRecord}

theorem answer?_saveDelivery {reply : Except StoreError Unit}
    (answered : store.answer? (.saveDelivery record) = some (reply, after)) :
    (reply = .ok () ∧ (store.deliveries.find? record.id).isSome = true ∧
      after = store.putDelivery record) ∨ (∃ error, reply = .error error) ∧ after = store := by
  simp only [answer?, saveDelivery, settle] at answered
  cases found : store.deliveries.find? record.id with
  | none =>
    simp only [found] at answered
    cases answered
    exact .inr ⟨⟨_, rfl⟩, rfl⟩
  | some stored =>
    simp only [found] at answered
    cases answered
    exact .inl ⟨rfl, rfl, rfl⟩

theorem answer?_createDelivery {reply : Except StoreError Unit}
    (answered : store.answer? (.createDelivery record) = some (reply, after)) :
    (reply = .ok () ∧ (store.subscriptions.find? record.subscriptionId).isSome = true ∧
      store.deliveries.find? record.id = none ∧ after = store.putDelivery record) ∨
      (∃ error, reply = .error error) ∧ after = store := by
  simp only [answer?, createDelivery, settle] at answered
  split at answered
  · rename_i created accepted
    cases answered
    split at accepted
    · cases accepted
    · rename_i known
      split at accepted
      · cases accepted
      · rename_i fresh
        cases accepted
        exact .inl ⟨rfl, by simpa [Option.isNone_iff_eq_none, Option.isSome_iff_ne_none] using known,
          by simpa using fresh, rfl⟩
  · cases answered
    exact .inr ⟨⟨_, rfl⟩, rfl⟩

theorem answer?_createDelivery_of_fresh
    (known : (store.subscriptions.find? record.subscriptionId).isSome = true)
    (fresh : store.deliveries.find? record.id = none) :
    store.answer? (.createDelivery record) = some (.ok (), store.putDelivery record) := by
  have created : store.createDelivery record = .ok (store.putDelivery record) := by
    simp [createDelivery, Option.isSome_iff_ne_none.mp known, fresh]
  simp only [answer?, created]
  rfl

theorem answer?_createDelivery_of_taken (taken : (store.deliveries.find? record.id).isSome = true) :
    ∃ error, store.answer? (.createDelivery record) = some (.error error, store) := by
  have refused : ∃ error, store.createDelivery record = .error error := by
    by_cases unknown : (store.subscriptions.find? record.subscriptionId).isNone = true
    · exact ⟨_, if_pos unknown⟩
    · exact ⟨_, (if_neg unknown).trans (if_pos taken)⟩
  obtain ⟨error, refused⟩ := refused
  refine ⟨error, ?_⟩
  simp only [answer?, refused]
  rfl

/-- Only creating and saving deliveries changes them. -/
theorem answer?_deliveries {call : StoreCall} {reply : Except StoreError call.Reply}
    (answered : store.answer? call = some (reply, after))
    (creates : ∀ record, call ≠ .createDelivery record)
    (saves : ∀ record, call ≠ .saveDelivery record) : after.deliveries = store.deliveries := by
  cases call with
  | createDelivery record => exact absurd rfl (creates record)
  | saveDelivery record => exact absurd rfl (saves record)
  | saveSubscription subscription =>
    simp only [answer?, saveSubscription, settle] at answered
    split at answered
    · rename_i changed accepted
      cases answered
      split at accepted
      · cases accepted
      · cases accepted
        rfl
    · cases answered
      rfl
  | clearExpiredPrevious id now =>
    simp only [answer?, clearExpiredPrevious, Option.some.injEq] at answered
    cases answered
    split
    · rfl
    · split <;> rfl
  | increment id counter now =>
    simp only [answer?, increment] at answered
    split at answered
    · cases answered
      rfl
    · rename_i stored found
      cases counted : stored.count? counter now with
      | none =>
        rw [counted] at answered
        cases answered
      | some changed =>
        rw [counted] at answered
        cases answered
        rfl
  | findSubscription id => cases answered; rfl
  | subscriptionsForEvent eventType => cases answered; rfl
  | subscriptionsWithPreviousSecret => cases answered; rfl
  | findDelivery id => cases answered; rfl

end MemoryStore

end HookRelay
