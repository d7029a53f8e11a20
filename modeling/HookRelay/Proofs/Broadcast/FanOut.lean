import HookRelay.Proofs.Broadcast.Run
import HookRelay.Proofs.Serving
import Mathlib.Data.List.Nodup

/-!
What becomes of an event that is passed on to all who listen to it, whichever calls to the store and
the queue fail on the way. Each listener gets a delivery of its own, whose fate is decided by the
calls that are made for it, and the deployment that is left is made up of these fates.
-/
namespace HookRelay

open HookRelay.Action

/-- The stored subscriptions that are active and list an event, each once and by age. -/
structure Audience (store : MemoryStore) (eventType : String) (audience : List Subscription) :
    Prop where
  mem_iff : ∀ subscription, subscription ∈ audience ↔
    store.subscriptions.find? subscription.id = some subscription ∧
      subscription.isActive = true ∧ subscription.subscribesTo eventType = true
  once : (audience.map Subscription.id).Nodup
  byAge : audience.Pairwise fun left right => left.createdAt ≤ right.createdAt

theorem MemoryStore.Listed.audience {store : MemoryStore} (listed : store.Listed)
    (eventType : String) : Audience store eventType (store.listeners eventType) where
  mem_iff subscription := by
    rw [listeners, List.mem_mergeSort, List.mem_filter, listed.mem_values_iff, Bool.and_eq_true_iff]
  once := by
    have sorted := List.mergeSort_perm (store.subscriptions.values.filter fun subscription =>
      subscription.isActive && subscription.subscribesTo eventType)
        fun left right => left.createdAt ≤ right.createdAt
    exact ((sorted.map Subscription.id).nodup_iff).mpr
      ((List.filter_sublist.map Subscription.id).nodup listed.ids_nodup)
  byAge := by
    have sorted : (store.listeners eventType).Pairwise fun left right =>
        decide (left.createdAt ≤ right.createdAt) = true := by
      refine List.pairwise_mergeSort (fun first second third earlier later => ?_)
        (fun left right => ?_) _
      · exact decide_eq_true (Int.le_trans (of_decide_eq_true earlier) (of_decide_eq_true later))
      · rcases Int.le_total left.createdAt.nanos right.createdAt.nanos with earlier | later
        · exact Bool.or_eq_true_iff.mpr (.inl (decide_eq_true earlier))
        · exact Bool.or_eq_true_iff.mpr (.inr (decide_eq_true later))
    exact sorted.imp of_decide_eq_true

/-- An event has been passed on, each delivery with its own fate. -/
structure FansOut (mishaps : Mishaps) (before : Deployment) (eventType : String)
    (payload : Json.Value) (audience : List Subscription) (fates : List Fate)
    (after : Deployment) : Prop where
  /-- Each listener gets one delivery, and this the next id, whatever goes wrong. -/
  addressed : fates.map Fate.subscriptionId = audience.map Subscription.id
  numbered : fates.map Fate.deliveryId = before.ids.ahead audience.length
  pending : ∀ fate ∈ fates, fate.record =
    .pending fate.deliveryId fate.subscriptionId eventType payload before.clock.now
  /-- A delivery is created unless its own creation fails, as it does with an id that is taken. -/
  created_iff : ∀ fate ∈ fates, fate.created = true ↔
    mishaps.creating fate.record = none ∧
      before.store.deliveries.find? fate.deliveryId = none ∧
      ∀ other ∈ fates, other.created = true → other.deliveryId = fate.deliveryId → other = fate
  queued_iff : ∀ fate ∈ fates, fate.queued = true ↔
    fate.created = true ∧ mishaps.queueing fate.deliveryId = none
  /-- Where ids are new, nothing that goes wrong with one delivery has to do with another. -/
  apart : (before.ids.ahead audience.length).Nodup →
    (∀ id ∈ before.ids.ahead audience.length, before.store.deliveries.find? id = none) →
    ∀ fate ∈ fates, fate = mishaps.judge fate.record (mishaps.creating fate.record).isNone
  once : ((fates.filter Fate.created).map Fate.deliveryId).Nodup
  deliveries : ∀ id record, after.store.deliveries.find? id = some record ↔
    before.store.deliveries.find? id = some record ∨
      ∃ fate ∈ fates, fate.created = true ∧ fate.deliveryId = id ∧ fate.record = record
  unaddressed : ∀ id record, record.subscriptionId ∉ audience.map Subscription.id →
    (after.store.deliveries.find? id = some record ↔
      before.store.deliveries.find? id = some record)
  slots : ∀ id, after.queue.slots.find? id =
    if id ∈ Fate.told fates then some ⟨before.clock.now, none⟩ else before.queue.slots.find? id
  history : after.queue.history = before.queue.history ++ (Fate.told fates).map Task.now
  subscriptions : after.store.subscriptions = before.store.subscriptions

theorem Mishaps.fansOut_fates (mishaps : Mishaps) (before : Deployment) (eventType : String)
    (payload : Json.Value) (audience : List Subscription) :
    FansOut mishaps before eventType payload audience
      (mishaps.fates eventType payload before audience)
      ((mishaps.fates eventType payload before audience).foldl Fate.leaves before) where
  addressed := map_subscriptionId_fates
  numbered := map_deliveryId_fates
  pending fate member := record_of_mem_fates member
  created_iff fate member := by
    constructor
    · intro created
      obtain ⟨sound, fresh⟩ := sound_of_created member created
      refine ⟨sound, fresh, fun other found stored same => ?_⟩
      exact List.inj_on_of_nodup_map created_nodup (List.mem_filter.mpr ⟨found, stored⟩)
        (List.mem_filter.mpr ⟨member, created⟩) same
    · rintro ⟨sound, fresh, alone⟩
      by_contra missed
      obtain ⟨other, found, stored, same⟩ :=
        taken_of_not_created member (Bool.eq_false_iff.mpr missed) sound fresh
      exact missed (alone other found stored same ▸ stored)
  queued_iff fate member := by
    have judged := congrArg Fate.queued (eq_judge_of_mem_fates member)
    rw [judged]
    exact Bool.and_eq_true_iff.trans (and_congr_right fun _ => Option.isNone_iff_eq_none)
  apart distinct fresh fate member := by
    have created : fate.created = (mishaps.creating fate.record).isNone := by
      rw [← map_deliveryId_fates] at distinct fresh
      rw [Bool.eq_iff_iff, Option.isNone_iff_eq_none]
      refine ⟨fun created => (sound_of_created member created).1, fun sound => ?_⟩
      by_contra missed
      obtain ⟨other, found, stored, same⟩ := taken_of_not_created member
        (Bool.eq_false_iff.mpr missed) sound (fresh _ (List.mem_map_of_mem member))
      have alone := List.inj_on_of_nodup_map distinct found member same
      exact missed (alone ▸ stored)
    rw [← created]
    exact eq_judge_of_mem_fates member
  once := created_nodup
  deliveries id record := find?_foldl_fates
  unaddressed id record elsewhere := by
    rw [find?_foldl_fates]
    refine ⟨fun found => found.resolve_right ?_, .inl⟩
    rintro ⟨fate, member, _, _, rfl⟩
    rw [← map_subscriptionId_fates] at elsewhere
    exact elsewhere (List.mem_map_of_mem member)
  slots id := by rw [Fate.slots_foldl, Table.find?_foldl_put]
  history := Fate.history_foldl before _
  subscriptions := Fate.subscriptions_foldl before _

namespace Mishaps

variable {mishaps : Mishaps} {deployment : Deployment} {eventType : String} {payload : Json.Value}

theorem run_broadcast_of_some {error : StoreError} (struck : mishaps.loading = some error) :
    (Dispatch.broadcast eventType payload).result.run mishaps.world deployment =
      (some (.error (.ofStore error)), deployment) := by
  have refused : mishaps.world (.store (.subscriptionsForEvent eventType)) deployment =
      (some (.error error : Except StoreError (List Subscription)), deployment) := by
    simp only [world, struck]
    rfl
  rw [Dispatch.broadcast, result_store_bind]
  exact run_step refused rfl

theorem run_broadcast_of_none (calm : deployment.Calm) (sound : mishaps.loading = none) :
    (Dispatch.broadcast eventType payload).result.run mishaps.world deployment =
      (some (.ok (Fate.told (mishaps.fates eventType payload deployment
          (deployment.store.listeners eventType)))),
        (mishaps.fates eventType payload deployment
          (deployment.store.listeners eventType)).foldl Fate.leaves deployment) := by
  have loaded : mishaps.world (.store (.subscriptionsForEvent eventType)) deployment =
      (some (.ok (deployment.store.listeners eventType) :
        Except StoreError (List Subscription)), deployment) := by
    simp only [world, sound]
    exact Deployment.answer_store fun operation _ => calm.faultless operation
  have ran := run_enqueueEach mishaps payload calm _ fun subscription member =>
    ((calm.listed.audience eventType).mem_iff subscription).mp member
  rw [Dispatch.broadcast, result_store_bind]
  refine run_step loaded ?_
  dsimp only
  rw [result_lift, Program.run_bind, ran]
  rfl

end Mishaps

/-- An event is passed on to all who listen to it, or to nobody where they cannot be found. -/
theorem Dispatch.broadcast_fansOut (mishaps : Mishaps) {deployment : Deployment}
    (calm : deployment.Calm) (eventType : String) (payload : Json.Value) : ∃ result after,
    (Dispatch.broadcast eventType payload).result.run mishaps.world deployment =
        (some result, after) ∧
      (∀ error, mishaps.loading = some error → result = .error (.ofStore error) ∧
        after = deployment) ∧
      (mishaps.loading = none → ∃ audience fates,
        Audience deployment.store eventType audience ∧
          FansOut mishaps deployment eventType payload audience fates after ∧
          result = .ok (Fate.told fates)) := by
  cases struck : mishaps.loading with
  | some error =>
    refine ⟨_, _, Mishaps.run_broadcast_of_some struck, ?_, nofun⟩
    rintro _ ⟨⟩
    exact ⟨rfl, rfl⟩
  | none =>
    refine ⟨_, _, Mishaps.run_broadcast_of_none calm struck, nofun, fun _ => ?_⟩
    exact ⟨_, _, calm.listed.audience eventType,
      mishaps.fansOut_fates deployment eventType payload _, rfl⟩

private def aged (id : Nat) (age : Int) : Subscription :=
  { Subscription.ofOrders with id := ⟨id⟩, createdAt := ⟨age⟩ }

/-- Four who listen, of whom the last is the oldest, one who is paused and one who listens to
something else. -/
private def crowd : Deployment :=
  { Deployment.start (.startingAt ⟨0⟩) (.ofList [⟨11⟩, ⟨12⟩, ⟨13⟩, ⟨14⟩]) .standard
      ⟨true, [], []⟩ with
    store := [aged 1 3, aged 2 1, aged 3 2, aged 4 0, { aged 5 0 with status := .paused },
        { aged 6 0 with eventTypes := ["order.paid"] }].foldl MemoryStore.putSubscription .empty }

/-- One delivery cannot be created, and another cannot be put in the queue. -/
private def squeeze : Mishaps where
  loading := none
  creating record := if record.subscriptionId = ⟨2⟩ then some (.database "no room") else none
  queueing id := if id = ⟨13⟩ then some (.queue "no room") else none

private theorem crowd_calm : crowd.Calm where
  faultless _ := rfl
  accepting := rfl
  unedited := rfl
  filed _ _ stored := nomatch stored
  listed := MemoryStore.listed_empty.foldl _

private theorem crowd_listeners : crowd.store.listeners "order.created" =
    [aged 4 0, aged 2 1, aged 3 2, aged 1 3] := by
  have listening : (crowd.store.subscriptions.values.filter fun subscription =>
      subscription.isActive && subscription.subscribesTo "order.created") =
        [aged 1 3, aged 2 1, aged 3 2, aged 4 0] := by decide +kernel
  have order (left right : Int) : ((⟨left⟩ : Instant) ≤ ⟨right⟩) = (left ≤ right) := rfl
  rw [MemoryStore.listeners, listening]
  simp [List.mergeSort, aged, order]

theorem Dispatch.broadcast_fansOut_squeezed : crowd.Calm ∧ ∃ after audience fates,
    (Dispatch.broadcast "order.created" .null).result.run squeeze.world crowd =
        (some (.ok [⟨11⟩, ⟨14⟩]), after) ∧
      Audience crowd.store "order.created" audience ∧
      FansOut squeeze crowd "order.created" .null audience fates after := by
  obtain ⟨result, after, ran, _, spread⟩ :=
    Dispatch.broadcast_fansOut squeeze crowd_calm "order.created" .null
  obtain ⟨audience, fates, listens, fansOut, rfl⟩ := spread rfl
  have told : ((Dispatch.broadcast "order.created" .null).result.run squeeze.world crowd).1.map
      Except.toOption = some (some [⟨11⟩, ⟨14⟩]) := by
    rw [Mishaps.run_broadcast_of_none crowd_calm rfl, crowd_listeners]
    decide +kernel
  rw [ran] at told
  have same : Fate.told fates = [⟨11⟩, ⟨14⟩] := Option.some.inj (Option.some.inj told)
  exact ⟨crowd_calm, after, audience, fates, same ▸ ran, listens, fansOut⟩

end HookRelay
