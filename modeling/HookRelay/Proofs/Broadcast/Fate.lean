import HookRelay.Proofs.Acceptance
import HookRelay.Proofs.Independence.Process

namespace HookRelay

/-- What goes wrong while an event is passed on: with the search for those who listen, with the
creation of a delivery, or with putting one in the queue. -/
structure Mishaps where
  loading : Option StoreError
  creating : DeliveryRecord → Option StoreError
  queueing : Uuid → Option DeliveryError

/-- What becomes of an event for one of those who listen to it. -/
structure Fate where
  record : DeliveryRecord
  created : Bool
  queued : Bool

namespace Fate

def subscriptionId (fate : Fate) : Uuid := fate.record.subscriptionId

def deliveryId (fate : Fate) : Uuid := fate.record.id

def told (fates : List Fate) : List Uuid := (fates.filter queued).map deliveryId

/-- The record and the task come where their calls succeed. -/
def enact (fate : Fate) (deployment : Deployment) : Deployment :=
  { deployment with
    store := if fate.created then deployment.store.putDelivery fate.record else deployment.store
    queue := if fate.queued then { deployment.queue with
        slots := deployment.queue.slots.put fate.deliveryId ⟨deployment.clock.now, none⟩
        history := deployment.queue.history ++ [.now fate.deliveryId] }
      else deployment.queue }

/-- An id is handed out in any case. -/
def leaves (deployment : Deployment) (fate : Fate) : Deployment :=
  fate.enact { deployment with ids := deployment.ids.next.2 }

end Fate

/-- The ids that are handed out next. -/
def IdSupply.ahead (supply : IdSupply) : Nat → List Uuid
  | 0 => []
  | count + 1 => supply.next.1 :: supply.next.2.ahead count

namespace Mishaps

/-- Answers as a deployment does, but for calls with which something goes wrong: these leave all as
it was. -/
def world (mishaps : Mishaps) : Program.World Relay Deployment
  | .store (.subscriptionsForEvent eventType), deployment =>
    match mishaps.loading with
    | some error => (some (.error error), deployment)
    | none => Deployment.answer (.store (.subscriptionsForEvent eventType)) deployment
  | .store (.createDelivery record), deployment =>
    match mishaps.creating record with
    | some error => (some (.error error), deployment)
    | none => Deployment.answer (.store (.createDelivery record)) deployment
  | .queue (.enqueue task), deployment =>
    match mishaps.queueing task.deliveryId with
    | some error => (some (.error error), deployment)
    | none => Deployment.answer (.queue (.enqueue task)) deployment
  | effect, deployment => Deployment.answer effect deployment

variable (mishaps : Mishaps) (eventType : String) (payload : Json.Value)

/-- A delivery is created if nothing goes wrong with it and its id is not taken. -/
def creates (deployment : Deployment) (record : DeliveryRecord) : Bool :=
  (mishaps.creating record).isNone && (deployment.store.deliveries.find? record.id).isNone

/-- What becomes of a delivery by its own calls, once it is known whether it is created. -/
def judge (record : DeliveryRecord) (created : Bool) : Fate :=
  ⟨record, created, created && (mishaps.queueing record.id).isNone⟩

def fate (deployment : Deployment) (subscription : Subscription) : Fate :=
  let record :=
    .pending deployment.ids.next.1 subscription.id eventType payload deployment.clock.now
  mishaps.judge record (mishaps.creates deployment record)

def fates (deployment : Deployment) : List Subscription → List Fate
  | [] => []
  | subscription :: rest =>
    let first := mishaps.fate eventType payload deployment subscription
    first :: fates (first.leaves deployment) rest

end Mishaps

namespace Fate

variable {deployment : Deployment} {fate : Fate}

theorem deliveries_leaves (deployment : Deployment) (fate : Fate) :
    (fate.leaves deployment).store.deliveries = if fate.created then
      deployment.store.deliveries.put fate.deliveryId fate.record
    else deployment.store.deliveries := by
  simp only [leaves, enact]
  split
  · rfl
  · rfl

theorem subscriptions_leaves (deployment : Deployment) (fate : Fate) :
    (fate.leaves deployment).store.subscriptions = deployment.store.subscriptions := by
  simp only [leaves, enact]
  split
  · rfl
  · rfl

theorem slots_leaves (deployment : Deployment) (fate : Fate) :
    (fate.leaves deployment).queue.slots = (told [fate]).foldl
      (fun slots id => slots.put id ⟨deployment.clock.now, none⟩) deployment.queue.slots := by
  cases queued : fate.queued with
  | true => simp [leaves, enact, told, queued]
  | false => simp [leaves, enact, told, queued]

theorem history_leaves (deployment : Deployment) (fate : Fate) :
    (fate.leaves deployment).queue.history =
      deployment.queue.history ++ (told [fate]).map Task.now := by
  cases queued : fate.queued with
  | true => simp [leaves, enact, told, queued]
  | false => simp [leaves, enact, told, queued]

theorem enact_calm (calm : deployment.Calm) (fate : Fate) : (fate.enact deployment).Calm where
  faultless operation := by
    simp only [enact]
    split
    · exact calm.faultless operation
    · exact calm.faultless operation
  accepting := by
    simp only [enact]
    split
    · exact calm.accepting
    · exact calm.accepting
  unedited := calm.unedited
  filed := by
    simp only [enact]
    split
    · exact calm.filed.put fate.record
    · exact calm.filed
  listed id subscription stored := by
    refine calm.listed id subscription ?_
    simp only [enact] at stored
    split at stored
    · exact stored
    · exact stored

theorem leaves_calm (calm : deployment.Calm) (fate : Fate) : (fate.leaves deployment).Calm := by
  have drawn : ({ deployment with ids := deployment.ids.next.2 } : Deployment).Calm := { calm with }
  exact enact_calm drawn fate

theorem find?_leaves_eq_none_iff {id : Uuid} :
    (fate.leaves deployment).store.deliveries.find? id = none ↔
      deployment.store.deliveries.find? id = none ∧
        ¬(fate.created = true ∧ fate.deliveryId = id) := by
  rw [deliveries_leaves]
  by_cases created : fate.created = true
  · rw [if_pos created, Table.find?_put]
    by_cases same : id = fate.deliveryId
    · simp [created, same]
    · simp [same, Ne.symm same]
  · simp [created]

/-- What is stored already stays, where ids are not used twice. -/
theorem find?_leaves_iff {id : Uuid} {record : DeliveryRecord}
    (fresh : fate.created = true → deployment.store.deliveries.find? fate.deliveryId = none) :
    (fate.leaves deployment).store.deliveries.find? id = some record ↔
      deployment.store.deliveries.find? id = some record ∨
        fate.created = true ∧ fate.deliveryId = id ∧ fate.record = record := by
  rw [deliveries_leaves]
  by_cases created : fate.created = true
  · rw [if_pos created, Table.find?_put]
    by_cases same : id = fate.deliveryId
    · simp [created, same, fresh created]
    · simp [same, Ne.symm same]
  · simp [created]

theorem told_cons (fate : Fate) (fates : List Fate) :
    told (fate :: fates) = told [fate] ++ told fates := by
  rw [told, told, told, ← List.map_append, ← List.filter_append]
  rfl

end Fate

namespace Mishaps

variable {mishaps : Mishaps} {deployment : Deployment} {subscription : Subscription}
  {eventType : String} {payload : Json.Value} {record : DeliveryRecord}

variable {subscriptions : List Subscription} {fate : Fate}

theorem map_subscriptionId_fates :
    (mishaps.fates eventType payload deployment subscriptions).map Fate.subscriptionId =
      subscriptions.map Subscription.id := by
  induction subscriptions generalizing deployment with
  | nil => rfl
  | cons subscription rest ih => exact congrArg (subscription.id :: ·) ih

theorem map_deliveryId_fates :
    (mishaps.fates eventType payload deployment subscriptions).map Fate.deliveryId =
      deployment.ids.ahead subscriptions.length := by
  induction subscriptions generalizing deployment with
  | nil => rfl
  | cons subscription rest ih => exact congrArg (deployment.ids.next.1 :: ·) ih

theorem record_of_mem_fates
    (member : fate ∈ mishaps.fates eventType payload deployment subscriptions) :
    fate.record = .pending fate.deliveryId fate.subscriptionId eventType payload
      deployment.clock.now := by
  induction subscriptions generalizing deployment with
  | nil => cases member
  | cons subscription rest ih =>
    rcases List.mem_cons.mp member with rfl | later
    · rfl
    · exact (ih later :)

theorem eq_judge_of_mem_fates
    (member : fate ∈ mishaps.fates eventType payload deployment subscriptions) :
    fate = mishaps.judge fate.record fate.created := by
  induction subscriptions generalizing deployment with
  | nil => cases member
  | cons subscription rest ih =>
    rcases List.mem_cons.mp member with rfl | later
    · rfl
    · exact ih later

theorem sound_of_created (member : fate ∈ mishaps.fates eventType payload deployment subscriptions)
    (created : fate.created = true) : mishaps.creating fate.record = none ∧
      deployment.store.deliveries.find? fate.deliveryId = none := by
  induction subscriptions generalizing deployment with
  | nil => cases member
  | cons subscription rest ih =>
    rcases List.mem_cons.mp member with rfl | later
    · obtain ⟨sound, fresh⟩ := Bool.and_eq_true_iff.mp created
      exact ⟨Option.isNone_iff_eq_none.mp sound, Option.isNone_iff_eq_none.mp fresh⟩
    · obtain ⟨sound, fresh⟩ := ih later
      exact ⟨sound, (Fate.find?_leaves_eq_none_iff.mp fresh).1⟩

/-- Where nothing goes wrong with a delivery and it is still not created, another one has taken its
id. -/
theorem taken_of_not_created
    (member : fate ∈ mishaps.fates eventType payload deployment subscriptions)
    (missed : fate.created = false) (sound : mishaps.creating fate.record = none)
    (fresh : deployment.store.deliveries.find? fate.deliveryId = none) :
    ∃ other ∈ mishaps.fates eventType payload deployment subscriptions,
      other.created = true ∧ other.deliveryId = fate.deliveryId := by
  induction subscriptions generalizing deployment with
  | nil => cases member
  | cons subscription rest ih =>
    rcases List.mem_cons.mp member with rfl | later
    · have creates : (mishaps.fate eventType payload deployment subscription).created = true :=
        Bool.and_eq_true_iff.mpr
          ⟨Option.isNone_iff_eq_none.mpr sound, Option.isNone_iff_eq_none.mpr fresh⟩
      exact absurd (missed.symm.trans creates) Bool.false_ne_true
    · by_cases first : (mishaps.fate eventType payload deployment subscription).created = true ∧
        (mishaps.fate eventType payload deployment subscription).deliveryId = fate.deliveryId
      · exact ⟨_, List.mem_cons_self, first⟩
      · obtain ⟨other, found, same⟩ := ih later (Fate.find?_leaves_eq_none_iff.mpr ⟨fresh, first⟩)
        exact ⟨other, List.mem_cons_of_mem _ found, same⟩

theorem created_nodup : (((mishaps.fates eventType payload deployment subscriptions).filter
    Fate.created).map Fate.deliveryId).Nodup := by
  induction subscriptions generalizing deployment with
  | nil => exact .nil
  | cons subscription rest ih =>
    rw [fates, List.filter_cons]
    split
    · rename_i created
      -- Those that come later find the first one stored, so none of them is created under its id.
      refine List.nodup_cons.mpr ⟨fun again => ?_, ih⟩
      obtain ⟨other, found, same⟩ := List.mem_map.mp again
      obtain ⟨later, stored⟩ := List.mem_filter.mp found
      have unused := (sound_of_created later stored).2
      rw [same, Fate.find?_leaves_eq_none_iff] at unused
      exact unused.2 ⟨created, rfl⟩
    · exact ih

theorem find?_foldl_fates {id : Uuid} {record : DeliveryRecord} :
    ((mishaps.fates eventType payload deployment subscriptions).foldl Fate.leaves
        deployment).store.deliveries.find? id = some record ↔
      deployment.store.deliveries.find? id = some record ∨
        ∃ fate ∈ mishaps.fates eventType payload deployment subscriptions,
          fate.created = true ∧ fate.deliveryId = id ∧ fate.record = record := by
  induction subscriptions generalizing deployment with
  | nil => simp [fates]
  | cons subscription rest ih =>
    have fresh : (mishaps.fate eventType payload deployment subscription).created = true →
        deployment.store.deliveries.find?
          (mishaps.fate eventType payload deployment subscription).deliveryId = none :=
      fun created => Option.isNone_iff_eq_none.mp (Bool.and_eq_true_iff.mp created).2
    rw [fates, List.foldl_cons, ih, Fate.find?_leaves_iff fresh, or_assoc]
    simp only [List.mem_cons, exists_eq_or_imp]

end Mishaps

namespace Fate

theorem subscriptions_foldl (deployment : Deployment) (fates : List Fate) :
    (fates.foldl leaves deployment).store.subscriptions = deployment.store.subscriptions := by
  induction fates generalizing deployment with
  | nil => rfl
  | cons fate rest ih => rw [List.foldl_cons, ih, subscriptions_leaves]

theorem slots_foldl (deployment : Deployment) (fates : List Fate) :
    (fates.foldl leaves deployment).queue.slots = (told fates).foldl
      (fun slots id => slots.put id ⟨deployment.clock.now, none⟩) deployment.queue.slots := by
  induction fates generalizing deployment with
  | nil => rfl
  | cons fate rest ih =>
    rw [List.foldl_cons, ih, slots_leaves, told_cons fate rest, List.foldl_append]
    rfl

theorem history_foldl (deployment : Deployment) (fates : List Fate) :
    (fates.foldl leaves deployment).queue.history =
      deployment.queue.history ++ (told fates).map Task.now := by
  induction fates generalizing deployment with
  | nil => exact (List.append_nil _).symm
  | cons fate rest ih =>
    rw [List.foldl_cons, ih, history_leaves, told_cons fate rest, List.map_append,
      List.append_assoc]

end Fate

end HookRelay
