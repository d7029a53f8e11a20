import HookRelay.Proofs.Action
import HookRelay.Proofs.Deployment
import HookRelay.Proofs.Rotation.Standing
import HookRelay.Sweep

namespace HookRelay

namespace MemoryStore

variable {store : MemoryStore}

def Listed (store : MemoryStore) : Prop :=
  ∀ id subscription, store.subscriptions.find? id = some subscription → subscription.id = id

theorem Listed.mem_values_iff (listed : store.Listed) (subscription : Subscription) :
    subscription ∈ store.subscriptions.values ↔
      store.subscriptions.find? subscription.id = some subscription := by
  rw [Table.values, List.mem_map, ← Table.mem_rows_iff]
  constructor
  · rintro ⟨⟨id, held⟩, found, rfl⟩
    have own := listed id held ((Table.mem_rows_iff _ _ _).mp found)
    exact own ▸ found
  · exact fun found => ⟨_, found, rfl⟩

theorem Listed.ids_nodup (listed : store.Listed) :
    (store.subscriptions.values.map Subscription.id).Nodup := by
  have keys : store.subscriptions.values.map Subscription.id =
      store.subscriptions.rows.map Prod.fst := by
    rw [Table.values, List.map_map]
    exact List.map_congr_left fun row found =>
      listed row.1 row.2 ((Table.mem_rows_iff _ _ _).mp found)
  exact keys ▸ store.subscriptions.distinct

theorem Listed.put (listed : store.Listed) {id : Uuid} {subscription : Subscription}
    (own : subscription.id = id) :
    ({ store with subscriptions := store.subscriptions.put id subscription } : MemoryStore).Listed :=
  Table.keyed_put store.subscriptions listed own

theorem listed_empty : empty.Listed := by
  intro id subscription found
  cases (Table.find?_empty id).symm.trans found

theorem Listed.foldl (listed : store.Listed) (subscriptions : List Subscription) :
    (subscriptions.foldl putSubscription store).Listed := by
  induction subscriptions generalizing store with
  | nil => exact listed
  | cons subscription rest ih => exact ih (listed.put rfl)

theorem Listed.save (listed : store.Listed) {subscription : Subscription} {after : MemoryStore}
    (saved : store.saveSubscription subscription = .ok after) : after.Listed := by
  unfold saveSubscription at saved
  split at saved
  · cases saved
  · cases saved
    exact listed.put rfl

end MemoryStore

theorem MemoryStore.answer?_clearExpiredPrevious {store after : MemoryStore} {id : Uuid}
    {now : Instant} {reply : Except StoreError Bool}
    (answered : store.answer? (.clearExpiredPrevious id now) = some (reply, after)) :
    reply = .ok false ∧ after = store ∨
      reply = .ok true ∧ ∃ stored, store.subscriptions.find? id = some stored ∧
        stored.previousHasExpired now = true ∧
        after = store.putSubscription (stored.withoutPrevious now) := by
  simp only [answer?, clearExpiredPrevious] at answered
  cases found : store.subscriptions.find? id with
  | none =>
    simp only [found] at answered
    cases answered
    exact .inl ⟨rfl, rfl⟩
  | some stored =>
    simp only [found] at answered
    by_cases expired : stored.previousHasExpired now = true
    · simp only [if_pos expired] at answered
      cases answered
      exact .inr ⟨rfl, stored, rfl, expired, rfl⟩
    · simp only [if_neg expired] at answered
      cases answered
      exact .inl ⟨rfl, rfl⟩

namespace Sweep

open HookRelay.Action HookRelay.Program

/-- While a sweep is made, nobody else writes to subscriptions and no time goes by; any call may fail
and the sweep may be broken off. -/
def alone : Surroundings Relay Site where
  drift site after := after.store.subscriptions = site.store.subscriptions ∧ after.time = site.time
  turn := Conditions.anything.Turn
  breaksOff := True
  drift_refl _ := ⟨rfl, rfl⟩
  drift_trans _ _ _ first second := ⟨second.1.trans first.1, second.2.trans first.2⟩

/-- What a sweep at a time asks of the world. -/
inductive Asks (time : Instant) : Effect → Prop where
  | candidates : Asks time (.store .subscriptionsWithPreviousSecret)
  | now : Asks time .now
  | clear (id : Uuid) : Asks time (.store (.clearExpiredPrevious id time))

private theorem clearEach_asks (time : Instant) (candidates : List Subscription) (site : Site) :
    (clearEach time candidates).Heeds alone (fun effect _ => Asks time effect)
      (fun _ _ => True) site := by
  induction candidates generalizing site with
  | nil => trivial
  | cons first rest ih =>
    unfold clearEach
    split
    · refine fun met _ => ⟨.clear first.id, fun reply after _ => ?_⟩
      exact (heeds_bind (clearEach time rest) _).mpr ((ih after).mono (fun _ _ => id) fun _ _ _ => trivial)
    · exact ih site

private theorem once_asks (site : Site) :
    once.result.Heeds alone (fun effect _ => Asks site.time effect) (fun _ _ => True) site := by
  rw [once, result_store_bind]
  intro met ⟨_, sameTime⟩
  refine ⟨.candidates, fun reply after turn => ?_⟩
  have still : after.time = met.time := Conditions.turn_time
    (show Conditions.anything.Turn (.store .subscriptionsWithPreviousSecret) met reply after from turn)
  cases reply with
  | error error => trivial
  | ok candidates =>
    intro later ⟨_, laterTime⟩
    refine ⟨.now, fun now read ⟨told, same⟩ => ?_⟩
    have time : now = site.time := told.trans (laterTime.trans (still.trans sameTime))
    subst time
    exact (heeds_bind (clearEach site.time candidates) _).mpr
      ((clearEach_asks site.time candidates read).mono (fun _ _ => id) fun _ _ _ => trivial)

/-- A subscription is as it was before a sweep, or has been cleared by it. -/
def Leaves (id : Uuid) (before : Subscription) (time : Instant) (site : Site) : Prop :=
  site.store.Listed ∧ site.time = time ∧ ∃ after, site.store.subscriptions.find? id = some after ∧
    (after = before ∨
      before.previousHasExpired time = true ∧ after = before.withoutPrevious time)

variable {id : Uuid} {before : Subscription} {time : Instant} {site after : Site}

private theorem Leaves.turn {effect : Effect} {reply : effect.Reply} (asked : Asks time effect)
    (turn : Conditions.anything.Turn effect site reply after) (leaves : Leaves id before time site) :
    Leaves id before time after := by
  cases asked with
  | now => exact turn.2 ▸ leaves
  | candidates =>
    rcases turn with ⟨store, answered, _, rfl⟩ | ⟨_, _, rfl⟩
    · cases answered
      exact leaves
    · exact leaves
  | clear other =>
    obtain ⟨listed, sameTime, left, found, shape⟩ := leaves
    rcases turn with ⟨store, answered, _, rfl⟩ | ⟨_, _, rfl⟩
    · rcases MemoryStore.answer?_clearExpiredPrevious answered with
        ⟨_, rfl⟩ | ⟨_, stored, held, expired, rfl⟩
      · exact ⟨listed, sameTime, left, found, shape⟩
      · have own : stored.id = other := listed other stored held
        have put (key : Uuid) : (site.store.putSubscription
            (stored.withoutPrevious time)).subscriptions.find? key = if key = other then
              some (stored.withoutPrevious time) else site.store.subscriptions.find? key := by
          rw [← own]
          exact Table.find?_put _ _ _ _
        refine ⟨fun key subscription kept => ?_, sameTime, ?_⟩
        · rw [put] at kept
          split at kept
          · rename_i same
            cases kept
            exact own.trans same.symm
          · exact listed key subscription kept
        · by_cases mine : id = other
          · subst mine
            cases held.symm.trans found
            refine ⟨_, (put id).trans (if_pos rfl), .inr ?_⟩
            rcases shape with rfl | ⟨_, rfl⟩
            · exact ⟨expired, rfl⟩
            -- Once cleared, there is no previous secret left that could expire.
            · cases expired
          · exact ⟨left, (put id).trans ((if_neg mine).trans found), shape⟩
    · exact ⟨listed, sameTime, left, found, shape⟩

private theorem Leaves.drift (drift : alone.drift site after)
    (leaves : Leaves id before time site) : Leaves id before time after := by
  obtain ⟨same, sameTime⟩ := drift
  obtain ⟨listed, met, left⟩ := leaves
  unfold Leaves MemoryStore.Listed
  rw [same]
  exact ⟨listed, sameTime.trans met, left⟩

/-- After a sweep, or a part of one, a subscription is as before, unless its previous secret had
expired: then that may have been cleared. -/
theorem once_leaves {result : Option (Except DeliveryError Nat)} {last : Subscription}
    (listed : site.store.Listed) (stored : site.store.subscriptions.find? id = some before)
    (run : once.result.Runs alone site result after)
    (found : after.store.subscriptions.find? id = some last) :
    last = before ∨
      before.previousHasExpired site.time = true ∧ last = before.withoutPrevious site.time := by
  have start : Leaves id before site.time site := ⟨listed, rfl, before, stored, .inl rfl⟩
  have ended := run.heeded ((once_asks site).keep start (fun _ _ => Leaves.drift)
    fun _ _ _ _ asked turn => Leaves.turn asked turn)
  have leaves : Leaves id before site.time after := by
    cases result with
    | none => exact ended.choose_spec.2
    | some value => exact ended.2
  obtain ⟨_, _, left, held, shape⟩ := leaves
  cases held.symm.trans found
  exact shape

end Sweep

end HookRelay
