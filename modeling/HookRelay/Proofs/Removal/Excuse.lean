import HookRelay.Proofs.Worker

namespace HookRelay

open HookRelay.Attempt

/-- What of a subscription decides whether deliveries are attempted. -/
def Subscription.terms (subscription : Subscription) : SubscriptionStatus × Nat :=
  (subscription.status, subscription.maxAttempts)

/-- Deliveries find these subscriptions, on the same terms. Calls may fail where there are faults,
time may go either way, and work is not broken off. -/
def Conditions.keeping (faults : Prop) (subscriptions : Table Uuid Subscription) : Conditions where
  storeFails := faults
  queueFails := faults
  breaksOff := False
  offers _ owner found :=
    found.map Subscription.terms = (subscriptions.find? owner).map Subscription.terms
  passes _ _ := True
  passes_refl _ := trivial
  passes_trans _ _ _ _ _ := trivial

/-- Nothing can come of a delivery any more: it is done or reported lost, or there is no delivery or
no subscription to it. -/
inductive Dossier.Closed (subscriptions : Table Uuid Subscription) (dossier : Dossier) : Prop where
  | missing (absent : dossier.record = none)
  | delivered {record : DeliveryRecord} (stored : dossier.record = some record)
      (successful : record.status = .successful)
  | reported {event : DeliveryEvent} (published : event ∈ dossier.events)
      (exhausted : event.isExhausted = true)
  | orphaned {record : DeliveryRecord} (stored : dossier.record = some record)
      (unknown : subscriptions.find? record.subscriptionId = none)

/-- Why a delivery need not be in the queue: nothing can come of it, or its owner has suspended the
subscription or no longer allows more attempts than were made, after having `allowed` more. -/
inductive Dossier.Excused (allowed : Uuid → Nat → Prop) (subscriptions : Table Uuid Subscription)
    (dossier : Dossier) : Prop where
  | closed (closed : dossier.Closed subscriptions)
  | suspended {record : DeliveryRecord} {subscription : Subscription}
      (stored : dossier.record = some record)
      (found : subscriptions.find? record.subscriptionId = some subscription)
      (inactive : subscription.isActive = false)
  | curtailed {record : DeliveryRecord} {subscription : Subscription}
      (stored : dossier.record = some record)
      (found : subscriptions.find? record.subscriptionId = some subscription)
      (failed : record.status = .failed) (spent : subscription.maxAttempts ≤ record.attempts)
      (hoped : allowed record.subscriptionId record.attempts)

/-- A failure was reported as the last one, unless there was hope of another attempt. -/
def Dossier.Told (allowed : Uuid → Nat → Prop) (dossier : Dossier) : Prop :=
  ∀ record, dossier.record = some record → record.status = .failed →
    (∃ event ∈ dossier.events, event.isExhausted = true) ∨
      allowed record.subscriptionId record.attempts

private theorem found_of_terms {found : Option Subscription} {subscription : Subscription}
    (same : found.map Subscription.terms = (some subscription).map Subscription.terms) :
    ∃ other, found = some other ∧ other.status = subscription.status ∧
      other.maxAttempts = subscription.maxAttempts := by
  obtain ⟨other, held, terms⟩ := Option.map_eq_some_iff.mp same
  exact ⟨other, held, congrArg Prod.fst terms, congrArg Prod.snd terms⟩

namespace Dossier

variable {allowed more : Uuid → Nat → Prop} {faults : Prop}
  {subscriptions others : Table Uuid Subscription} {policy : RetryPolicy} {id : Uuid}
  {start flight dossier : Dossier} {since : Instant} {record failed : DeliveryRecord}
  {subscription : Subscription} {failure : DeliveryError}

theorem Told.mono (told : dossier.Told allowed)
    (weaker : ∀ owner attempts, allowed owner attempts → more owner attempts) :
    dossier.Told more :=
  fun record stored failed => (told record stored failed).imp_right (weaker _ _)

theorem told_of_record (stored : dossier.record = some record)
    (open_ : record.status ≠ .failed) : dossier.Told allowed := by
  intro held found failed
  cases stored.symm.trans found
  exact absurd failed open_

/-- A delivery is excused alike by subscriptions on the same terms. -/
theorem Excused.of_terms (excused : dossier.Excused allowed subscriptions)
    (same : ∀ record, dossier.record = some record →
      (others.find? record.subscriptionId).map Subscription.terms =
        (subscriptions.find? record.subscriptionId).map Subscription.terms) :
    dossier.Excused allowed others := by
  cases excused with
  | closed closed =>
    cases closed with
    | missing absent => exact .closed (.missing absent)
    | delivered stored successful => exact .closed (.delivered stored successful)
    | reported published exhausted => exact .closed (.reported published exhausted)
    | @orphaned record stored unknown =>
      have terms := same record stored
      rw [unknown, Option.map_none, Option.map_eq_none_iff] at terms
      exact .closed (.orphaned stored terms)
  | @suspended record subscription stored found inactive =>
    obtain ⟨other, held, status, _⟩ := found_of_terms (found ▸ same record stored)
    exact .suspended stored held (by rwa [Subscription.isActive, status])
  | @curtailed record subscription stored found failed spent hoped =>
    obtain ⟨other, held, _, limited⟩ := found_of_terms (found ▸ same record stored)
    exact .curtailed stored held failed (limited ▸ spent) hoped

private theorem slot_of_stage
    (queued : start.slot.isSome = true)
    (stage : Stage (.keeping faults subscriptions) policy id start since dossier) :
    dossier.slot.isSome = true := by
  cases stage with
  | waiting => exact queued
  | begun begins => exact queued
  | sent sends => exact queued
  | succeeded succeeds => exact queued
  | failed ends =>
    cases ends.fails with
    | interrupted stored offered inFlight => exact queued
    | answered sends failed => exact queued
  | retried retried => rfl

private theorem told_of_retries {now : Instant} {delay : Duration}
    (reaches : ∀ owner subscription attempts, subscriptions.find? owner = some subscription →
      attempts < subscription.maxAttempts → allowed owner attempts)
    (retries : Retries (.keeping faults subscriptions) policy start since flight record failed
      subscription failure now delay) (stored : dossier.record = some failed) :
    dossier.Told allowed := by
  intro held found _
  cases stored.symm.trans found
  obtain ⟨draw, decided⟩ := retries.decided
  obtain ⟨left, _⟩ := RetryPolicy.decide?_eq_retry decided
  have offered := retries.fails.offered
  obtain ⟨_, rfl⟩ := DeliveryRecord.fail_eq_ok retries.ends
  obtain ⟨other, found, _, limited⟩ := found_of_terms offered.symm
  exact .inr (reaches _ other _ found (limited ▸ left))

private theorem told_of_concludes {result : Except DeliveryError Outcome}
    (reaches : ∀ owner subscription attempts, subscriptions.find? owner = some subscription →
      attempts < subscription.maxAttempts → allowed owner attempts)
    (told : start.Told allowed)
    (concludes : Concludes (.keeping faults subscriptions) policy id start since result dossier) :
    dossier.Told allowed := by
  cases concludes with
  | missing absent => exact told
  | unsubscribed stored unknown => exact told
  | inactive stored offered inactive => exact told
  | ineligible stored offered landed unable => exact told
  | unsigned stored offered refused => exact told
  | faulted givesUp fault lasting =>
    cases givesUp with
    | waiting => exact told
    | sent sends => exact told_of_record rfl (by simp [sends.inFlight])
    | unqueued retries => exact told_of_retries reaches retries rfl
  | delivered succeeds =>
    obtain ⟨_, rfl⟩ := DeliveryRecord.succeed_eq_ok succeeds.succeeds
    exact told_of_record rfl nofun
  | retried retried => exact told_of_retries reaches retried.toRetries rfl
  | exhausted ends decided =>
    exact fun _ _ _ => .inl ⟨_, List.mem_append_right _ (List.mem_singleton.mpr rfl), rfl⟩

private theorem excused_of_ineligible (told : start.Told allowed)
    (stored : start.record = some record)
    (offered : (Conditions.keeping faults subscriptions).offers record.id record.subscriptionId
      (some subscription)) (landed : record.status ≠ .processing)
    (unable : record.canAttempt subscription.maxAttempts = false) :
    start.Excused allowed subscriptions := by
  obtain ⟨other, found, _, limited⟩ := found_of_terms offered.symm
  rw [← limited] at unable
  cases status : record.status with
  | pending => simp [DeliveryRecord.canAttempt, status] at unable
  | processing => exact absurd status landed
  | successful => exact .closed (.delivered stored status)
  | failed =>
    rcases told record stored status with ⟨event, published, exhausted⟩ | hoped
    · exact .closed (.reported published exhausted)
    · refine .curtailed stored found status ?_ hoped
      simpa [DeliveryRecord.canAttempt, status] using unable

private theorem excused_of_settles {result : Except DeliveryError Outcome}
    (told : start.Told allowed)
    (concludes : Concludes (.keeping faults subscriptions) policy id start since result dossier)
    (settled : Worker.isSettled result = true) :
    dossier.Excused allowed subscriptions ∨ ∃ due, dossier.slot = some ⟨due, none⟩ := by
  cases concludes with
  | missing absent => exact .inl (.closed (.missing absent))
  | unsubscribed stored unknown =>
    exact .inl (.closed (.orphaned stored (Option.map_eq_none_iff.mp unknown.symm)))
  | faulted givesUp fault lasting => simp [Worker.isSettled, lasting] at settled
  | @inactive record subscription stored offered inactive =>
    obtain ⟨other, found, status, _⟩ := found_of_terms offered.symm
    exact .inl (.suspended stored found (by rwa [Subscription.isActive, status]))
  | ineligible stored offered landed unable =>
    exact .inl (excused_of_ineligible told stored offered landed unable)
  | unsigned stored offered refused => cases settled
  | delivered succeeds =>
    obtain ⟨_, rfl⟩ := DeliveryRecord.succeed_eq_ok succeeds.succeeds
    exact .inl (.closed (.delivered rfl rfl))
  | @retried flight record failed subscription failure now due delay retried =>
    exact .inr ⟨due, rfl⟩
  | exhausted ends decided =>
    exact .inl (.closed (.reported (List.mem_append_right _ (List.mem_singleton.mpr rfl)) rfl))

theorem Excused.completed (excused : dossier.Excused allowed subscriptions) (lease : Lease) :
    (dossier.completed lease).Excused allowed subscriptions := by
  cases excused with
  | closed closed =>
    cases closed with
    | missing absent => exact .closed (.missing absent)
    | delivered stored successful => exact .closed (.delivered stored successful)
    | reported published exhausted => exact .closed (.reported published exhausted)
    | orphaned stored unknown => exact .closed (.orphaned stored unknown)
  | suspended stored found inactive => exact .suspended stored found inactive
  | curtailed stored found failed spent hoped => exact .curtailed stored found failed spent hoped

/-- One worker keeps in the queue what it may not drop. -/
theorem Told.upkeep (faults : Prop) (policy : RetryPolicy) (id : Uuid) (queued : Prop)
    (reaches : ∀ owner subscription attempts, subscriptions.find? owner = some subscription →
      attempts < subscription.maxAttempts → allowed owner attempts) :
    Upkeep (.keeping faults subscriptions) policy id
      (fun _ dossier => dossier.Told allowed ∧
        (queued → dossier.slot.isSome = true ∨ dossier.Excused allowed subscriptions))
      (fun _ dossier => dossier.Told allowed ∧ dossier.slot.isSome = true) where
  holds _ _ _ _ held := held
  waits _ _ _ _ claimed := claimed
  claims _ _ _ _ _ held _ _ := ⟨held.1, rfl⟩
  drops breaks := breaks.elim
  concludes := by
    intro since now start dossier result ⟨told, slot⟩ _ concludes
    have left := told_of_concludes reaches told concludes
    obtain ⟨staged, stage, _, same⟩ := concludes.stage
    have still : dossier.slot.isSome = true := by
      rw [same]
      exact slot_of_stage slot stage
    refine ⟨⟨left, fun _ => .inl still⟩, fun settled lease => ⟨left, fun _ => ?_⟩⟩
    rcases excused_of_settles told concludes settled with excused | ⟨due, waits⟩
    · exact .inr (excused.completed lease)
    · refine .inl ?_
      simp [Dossier.completed, waits]

end Dossier

end HookRelay
