import HookRelay.Proofs.Broadcast.Fate

namespace HookRelay.Mishaps

open HookRelay.Action

variable {mishaps : Mishaps} {deployment : Deployment} {subscription : Subscription}
  {eventType : String} {payload : Json.Value} {record : DeliveryRecord}

theorem world_createDelivery_of_creates (calm : deployment.Calm)
    (known : (deployment.store.subscriptions.find? record.subscriptionId).isSome = true)
    (creates : mishaps.creates deployment record = true) :
    mishaps.world (.store (.createDelivery record)) deployment =
      (some (.ok () : Except StoreError Unit),
        { deployment with store := deployment.store.putDelivery record }) := by
  obtain ⟨sound, fresh⟩ := Bool.and_eq_true_iff.mp creates
  simp only [world, Option.isNone_iff_eq_none.mp sound]
  rw [Deployment.answer_store fun operation _ => calm.faultless operation,
    MemoryStore.answer?_createDelivery_of_fresh known (Option.isNone_iff_eq_none.mp fresh)]
  rfl

theorem world_createDelivery_of_not (calm : deployment.Calm)
    (creates : mishaps.creates deployment record = false) : ∃ error,
    mishaps.world (.store (.createDelivery record)) deployment =
      (some (.error error : Except StoreError Unit), deployment) := by
  cases struck : mishaps.creating record with
  | some error =>
    refine ⟨error, ?_⟩
    simp only [world, struck]
    rfl
  | none =>
    have taken : (deployment.store.deliveries.find? record.id).isSome = true := by
      simpa [Mishaps.creates, struck] using creates
    obtain ⟨error, answered⟩ := MemoryStore.answer?_createDelivery_of_taken taken
    refine ⟨error, ?_⟩
    simp only [world, struck]
    rw [Deployment.answer_store fun operation _ => calm.faultless operation, answered]
    rfl

theorem world_enqueue_of_none {id : Uuid} (calm : deployment.Calm)
    (sound : mishaps.queueing id = none) :
    mishaps.world (.queue (.enqueue (.now id))) deployment =
      (some (.ok () : Except DeliveryError Unit), { deployment with
        queue := { deployment.queue with
          slots := deployment.queue.slots.put id ⟨deployment.clock.now, none⟩
          history := deployment.queue.history ++ [.now id] } }) := by
  simp only [world, show mishaps.queueing (Task.now id).deliveryId = none from sound]
  exact Deployment.answer_enqueue_of_accepting calm.accepting id

theorem world_enqueue_of_some {id : Uuid} {error : DeliveryError}
    (struck : mishaps.queueing id = some error) :
    mishaps.world (.queue (.enqueue (.now id))) deployment =
      (some (.error error : Except DeliveryError Unit), deployment) := by
  simp only [world, show mishaps.queueing (Task.now id).deliveryId = some error from struck]
  rfl

theorem run_step {α : Type} {effect : Effect} {reply : effect.Reply}
    {next : effect.Reply → Program Relay α} {after : Deployment} {ended : Option α × Deployment}
    (answered : mishaps.world effect deployment = (some reply, after))
    (ran : (next reply).run mishaps.world after = ended) :
    (.step effect next : Program Relay α).run mishaps.world deployment = ended :=
  (Program.run_step answered _).trans ran

/-- A delivery is created and put in the queue, or not, as it is judged. -/
theorem run_create (mishaps : Mishaps) (calm : deployment.Calm) (record : DeliveryRecord)
    (known : (deployment.store.subscriptions.find? record.subscriptionId).isSome = true) :
    ∃ result, (store (.createDelivery record) >>= fun _ =>
        queue (.enqueue (.now record.id)) >>= fun _ => pure record.id : Action Uuid).result.run
          mishaps.world deployment =
        (some result,
          (mishaps.judge record (mishaps.creates deployment record)).enact deployment) ∧
      result.toOption.toList =
        Fate.told [mishaps.judge record (mishaps.creates deployment record)] := by
  rw [result_store_bind]
  cases creates : mishaps.creates deployment record with
  | false =>
    obtain ⟨error, refused⟩ := world_createDelivery_of_not calm creates
    exact ⟨.error (.ofStore error), run_step refused rfl, rfl⟩
  | true =>
    have created := world_createDelivery_of_creates calm known creates
    have stored : ({ deployment with store := deployment.store.putDelivery record } :
        Deployment).Calm := Fate.enact_calm calm ⟨record, true, false⟩
    rw [result_queue_bind, judge]
    cases struck : mishaps.queueing record.id with
    | none =>
      exact ⟨.ok record.id,
        run_step created (run_step (world_enqueue_of_none stored struck) rfl), rfl⟩
    | some error =>
      exact ⟨.error error, run_step created (run_step (world_enqueue_of_some struck) rfl), rfl⟩

theorem run_enqueue (mishaps : Mishaps) (payload : Json.Value) (calm : deployment.Calm)
    (active : subscription.isActive = true)
    (listens : subscription.subscribesTo eventType = true)
    (known : (deployment.store.subscriptions.find? subscription.id).isSome = true) : ∃ result,
      (Dispatch.enqueue subscription eventType payload).result.run mishaps.world deployment =
        (some result, (mishaps.fate eventType payload deployment subscription).leaves deployment) ∧
      result.toOption.toList =
        Fate.told [mishaps.fate eventType payload deployment subscription] := by
  have opened : Dispatch.enqueue subscription eventType payload = (do
      let now ← perform .now
      let id ← perform .newDeliveryId
      store (.createDelivery (.pending id subscription.id eventType payload now))
      queue (.enqueue (.now id))
      pure id) := by
    rw [Dispatch.enqueue, listens, active]
    rfl
  have read : mishaps.world .now deployment = (some deployment.clock.now, deployment) :=
    Deployment.answer_now calm.unedited
  have drawn : mishaps.world .newDeliveryId deployment = (some deployment.ids.next.1,
    { deployment with ids := deployment.ids.next.2 }) := rfl
  have ready : ({ deployment with ids := deployment.ids.next.2 } : Deployment).Calm := { calm with }
  obtain ⟨result, ran, told⟩ := run_create mishaps ready (.pending deployment.ids.next.1
    subscription.id eventType payload deployment.clock.now) known
  refine ⟨result, ?_, told⟩
  rw [opened, result_perform_bind]
  exact run_step read (run_step drawn ran)

theorem run_enqueueEach (mishaps : Mishaps) (payload : Json.Value) (calm : deployment.Calm)
    (subscriptions : List Subscription) (listen : ∀ subscription ∈ subscriptions,
      deployment.store.subscriptions.find? subscription.id = some subscription ∧
        subscription.isActive = true ∧ subscription.subscribesTo eventType = true) :
    (Dispatch.enqueueEach eventType payload subscriptions).run mishaps.world deployment =
      (some (Fate.told (mishaps.fates eventType payload deployment subscriptions)),
        (mishaps.fates eventType payload deployment subscriptions).foldl Fate.leaves
          deployment) := by
  induction subscriptions generalizing deployment with
  | nil => rfl
  | cons subscription rest ih =>
    obtain ⟨stored, active, listens⟩ := listen subscription List.mem_cons_self
    obtain ⟨result, ran, told⟩ :=
      run_enqueue mishaps payload calm active listens (Option.isSome_of_eq_some stored)
    -- Whatever has become of the first, the others find calm and their subscriptions as before.
    have others := ih (Fate.leaves_calm calm
      (mishaps.fate eventType payload deployment subscription)) fun other member => by
        rw [Fate.subscriptions_leaves]
        exact listen other (List.mem_cons_of_mem _ member)
    rw [Dispatch.enqueueEach, Program.run_bind, ran]
    dsimp only
    rw [Program.run_bind, others, fates, Fate.told_cons, ← told]
    rfl

end HookRelay.Mishaps
