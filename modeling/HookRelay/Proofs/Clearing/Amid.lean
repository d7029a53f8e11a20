import HookRelay.Proofs.Sweep

namespace HookRelay

namespace Subscription

variable {subscription : Subscription} {now later : Instant}

/-- A previous secret in order that has expired. -/
structure Spent (subscription : Subscription) (now : Instant) : Prop where
  grace : subscription.GraceInOrder
  expired : subscription.previousHasExpired now = true

theorem Spent.held (spent : subscription.Spent now) : subscription.previousSecret.isSome = true :=
  (Bool.and_eq_true_iff.mp spent.expired).1

theorem Spent.clearExpired (spent : subscription.Spent now) :
    subscription.clearExpired now = .ok (some (subscription.withoutPrevious now)) := by
  rw [clearExpired_of_grace spent.grace, if_pos spent.expired]

theorem spent_of_clearExpired {cleared : Subscription}
    (found : subscription.clearExpired now = .ok (some cleared)) : subscription.Spent now := by
  refine ⟨Classical.byContradiction fun disorder => ?_, (clearExpired_eq_some found).1⟩
  obtain ⟨fault, refused⟩ := graceWindow_of_disorder disorder
  cases held : subscription.previousSecret with
  | none => exact disorder fun _ same => by simp [held] at same
  | some previous =>
    simp [Subscription.clearExpired, held, previousIsValid, refused, Except.map] at found

theorem isDue_iff (subscription : Subscription) (now : Instant) :
    Sweep.isDue subscription now = true ↔ subscription.Spent now := by
  refine ⟨fun due => ?_, fun spent => by rw [Sweep.isDue, spent.clearExpired]⟩
  unfold Sweep.isDue at due
  split at due
  · exact spent_of_clearExpired ‹_›
  · cases due

/-- Once it is spent, a previous secret verifies nothing, so nobody misses it. -/
theorem Spent.activeSecrets (spent : subscription.Spent now) (passed : now ≤ later) :
    (subscription.withoutPrevious now).activeSecrets later = subscription.activeSecrets later := by
  cases usable : subscription.secret.isEmpty with
  | true => simp [Subscription.activeSecrets, withoutPrevious, usable]
  | false =>
    have expired : subscription.previousHasExpired later = true := by
      obtain ⟨previous, expires, held, ends, past⟩ :=
        (previousHasExpired_iff subscription now).mp spent.expired
      exact (previousHasExpired_iff subscription later).mpr
        ⟨previous, expires, held, ends, Int.lt_of_lt_of_le past passed⟩
    rw [activeSecrets_of_not_inGrace ⟨usable, spent.grace⟩ (not_inGrace_of_expired expired)]
    refine activeSecrets_of_not_inGrace ⟨usable, fun _ held => by cases held⟩ ?_
    rintro ⟨previous, expires, held, _⟩
    cases held

end Subscription

namespace Sweep

open HookRelay.Action HookRelay.Program

/-- While a sweep is made, time goes by and others write what they like, as long as subscriptions stay
under their own ids; any call of the sweep may fail. -/
def amid : Surroundings Relay Site where
  drift site after := site.store.Listed → after.store.Listed
  turn := Conditions.anything.Turn
  breaksOff := False
  drift_refl _ := id
  drift_trans _ _ _ first second := second ∘ first

/-- The subscription of which an effect is told that it has been cleared. -/
def clearedBy : (effect : Effect) → effect.Reply → Option Uuid
  | .store (.clearExpiredPrevious id _), reply =>
    match (reply : Except StoreError Bool) with
    | .ok true => some id
    | _ => none
  | _, _ => none

def cleared (trace : List (Moment Relay Site)) : List Uuid :=
  trace.filterMap fun moment => clearedBy moment.op moment.reply

/-- A subscription is cleared that was loaded with a spent previous secret and is now stored with one
whose expiry has passed too. Three of its fields change, and nothing else in the store. -/
structure Clears (now : Instant) (loaded met after : MemoryStore) (id : Uuid) : Prop where
  due : ∃ subscription, loaded.subscriptions.find? id = some subscription ∧ subscription.Spent now
  still : ∃ stored previous expires left, met.subscriptions.find? id = some stored ∧
    stored.previousSecret = some previous ∧ stored.previousExpiresAt = some expires ∧
    expires < now ∧
    left = { stored with previousSecret := none, previousExpiresAt := none, updatedAt := now } ∧
    after = { met with subscriptions := met.subscriptions.put id left }

/-- A moment of a sweep clears what it is told to have cleared, and leaves the store alone otherwise. -/
structure Sound (now : Instant) (loaded : MemoryStore) (moment : Moment Relay Site) : Prop where
  clears : ∀ id, clearedBy moment.op moment.reply = some id →
    Clears now loaded moment.met.store moment.after.store id
  leaves : clearedBy moment.op moment.reply = none → moment.after.store = moment.met.store

variable {now : Instant} {loaded : MemoryStore} {candidate : Subscription} {site met after : Site}

private theorem sound_clear {reply : Except StoreError Bool} (listed : met.store.Listed)
    (known : loaded.subscriptions.find? candidate.id = some candidate)
    (due : isDue candidate now = true)
    (turn : Conditions.anything.Turn (.store (.clearExpiredPrevious candidate.id now)) met reply
      after) :
    Sound now loaded ⟨.store (.clearExpiredPrevious candidate.id now), met, reply, after⟩ ∧
      after.store.Listed := by
  rcases turn with ⟨store, answered, _, rfl⟩ | ⟨_, ⟨error, rfl⟩, rfl⟩
  · rcases MemoryStore.answer?_clearExpiredPrevious answered with
      ⟨rfl, rfl⟩ | ⟨rfl, stored, held, expired, rfl⟩
    · exact ⟨⟨nofun, fun _ => rfl⟩, listed⟩
    · have own := listed _ _ held
      obtain ⟨previous, expires, replaced, ends, past⟩ :=
        (Subscription.previousHasExpired_iff _ _).mp expired
      refine ⟨⟨fun id told => ?_, nofun⟩, listed.put rfl⟩
      cases told
      exact ⟨⟨candidate, known, (candidate.isDue_iff now).mp due⟩, stored, previous, expires, _, held,
        replaced, ends, past, rfl, own ▸ rfl⟩
  · exact ⟨⟨nofun, fun _ => rfl⟩, listed⟩

theorem clearEach_traced {candidates : List Subscription} {trace : List (Moment Relay Site)}
    {count : Nat} (listed : site.store.Listed)
    (known : ∀ candidate ∈ candidates,
      loaded.subscriptions.find? candidate.id = some candidate)
    (run : (clearEach now candidates).Traced amid site trace count after) :
    (∀ moment ∈ trace, Sound now loaded moment) ∧ count = (cleared trace).length ∧
      (cleared trace).Sublist (candidates.map Subscription.id) := by
  induction candidates generalizing site trace count with
  | nil =>
    cases run
    exact ⟨List.forall_mem_nil _, rfl, .slnil⟩
  | cons candidate rest ih =>
    obtain ⟨knownFirst, knownRest⟩ := List.forall_mem_cons.mp known
    unfold clearEach at run
    split at run
    · rename_i due
      cases run with
      | @step _ _ _ met middle _ reply _ _ drift turn others =>
        obtain ⟨sound, kept⟩ := sound_clear (drift listed) knownFirst due turn
        obtain ⟨first, later, count, last, rfl, ran, ended⟩ :=
          @traced_bind _ _ _ _ _ _ _ (clearEach now rest) _ _ _ others
        cases ended
        obtain ⟨sounds, counted, inside⟩ := ih kept knownRest ran
        rw [List.append_nil]
        refine ⟨List.forall_mem_cons.mpr ⟨sound, sounds⟩, ?_⟩
        subst counted
        cases reply with
        | error error => exact ⟨rfl, inside.cons _⟩
        | ok done =>
          cases done with
          | true => exact ⟨rfl, inside.cons_cons _⟩
          | false => exact ⟨rfl, inside.cons _⟩
    · obtain ⟨sounds, counted, inside⟩ := ih listed knownRest run
      exact ⟨sounds, counted, inside.cons _⟩

/-- What a sweep comes to, moment by moment: either subscriptions cannot be loaded, and nothing is
done; or the clock is read once after that, every moment is sound at that time, no subscription is
cleared twice and those that are cleared are counted. -/
inductive Accounted : List (Moment Relay Site) → Except DeliveryError Nat → Prop where
  | unloaded {load : Site} {error : StoreError} {cause : DeliveryError} :
      Accounted [⟨.store .subscriptionsWithPreviousSecret, load, .error error, load⟩] (.error cause)
  | swept {load opened read : Site} {candidates : List Subscription}
      {clears : List (Moment Relay Site)} (kept : opened.store = load.store)
      (sound : ∀ moment ∈ clears, Sound read.time load.store moment)
      (distinct : (cleared clears).Nodup) :
      Accounted (⟨.store .subscriptionsWithPreviousSecret, load, .ok candidates, opened⟩ ::
        ⟨.now, read, read.time, read⟩ :: clears) (.ok (cleared clears).length)

theorem once_accounted {trace : List (Moment Relay Site)} {result : Except DeliveryError Nat}
    (listed : site.store.Listed) (run : once.result.Traced amid site trace result after) :
    Accounted trace result := by
  rw [once, result_store_bind] at run
  cases run with
  | @step _ _ _ load opened _ reply _ _ drift turn rest =>
    rcases turn with ⟨store, answered, _, rfl⟩ | ⟨_, ⟨error, rfl⟩, rfl⟩
    · cases answered
      cases rest with
      | @step _ _ _ _ read _ now _ _ later told clearing =>
        obtain ⟨rfl, rfl⟩ := told
        obtain ⟨clears, ended, count, last, rfl, ran, done⟩ :=
          @traced_bind _ _ _ _ _ _ _ (clearEach read.time _) _ _ _ clearing
        cases done
        have kept : load.store.Listed := drift listed
        have known : ∀ candidate ∈ load.store.subscriptions.values.filter fun subscription =>
            subscription.previousSecret.isSome,
            load.store.subscriptions.find? candidate.id = some candidate := fun candidate member =>
          (kept.mem_values_iff candidate).mp (List.mem_filter.mp member).1
        obtain ⟨sound, rfl, inside⟩ := clearEach_traced (later kept) known ran
        rw [List.append_nil]
        exact .swept rfl sound (inside.nodup ((List.filter_sublist.map _).nodup kept.ids_nodup))
    · cases rest
      exact .unloaded

end Sweep

end HookRelay
