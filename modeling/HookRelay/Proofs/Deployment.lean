import HookRelay.Memory.Deployment
import HookRelay.Proofs.Worker

namespace HookRelay

/-- Nothing is relied on, and everything may go wrong. -/
def Conditions.anything : Conditions where
  storeFails := True
  queueFails := True
  breaksOff := True
  offers _ _ _ := True
  passes _ _ := True
  passes_refl _ := trivial
  passes_trans _ _ _ _ _ := trivial

/-- A site shows what a deployment holds; the logs of requests and saves are the site's own. -/
structure Site.Shows (site : Site) (deployment : Deployment) : Prop where
  time : site.time = deployment.clock.now
  store : site.store = deployment.store
  queue : site.queue = deployment.queue
  events : site.events = deployment.events

namespace Deployment

/-- A deployment that holds the same about deliveries, whatever else has changed. -/
structure Keeps (first second : Deployment) : Prop where
  deliveries : second.store.deliveries = first.store.deliveries
  slots : second.queue.slots = first.queue.slots
  history : second.queue.history = first.queue.history
  events : second.events = first.events

theorem Keeps.refl (deployment : Deployment) : Keeps deployment deployment := ⟨rfl, rfl, rfl, rfl⟩

theorem Keeps.trans {first second third : Deployment} (earlier : Keeps first second)
    (later : Keeps second third) : Keeps first third :=
  ⟨later.deliveries.trans earlier.deliveries, later.slots.trans earlier.slots,
    later.history.trans earlier.history, later.events.trans earlier.events⟩

theorem disturb_keeps (deployment : Deployment) (disturbance : Disturbance) :
    Keeps deployment (deployment.disturb disturbance) := by
  cases disturbance with
  | advance duration => exact ⟨rfl, rfl, rfl, rfl⟩
  | edit subscription => exact ⟨rfl, rfl, rfl, rfl⟩
  | failStore operation reason => exact ⟨rfl, rfl, rfl, rfl⟩
  | failEnqueue reason => exact ⟨rfl, rfl, rfl, rfl⟩

private theorem disturbances_keep (deployment : Deployment) (disturbances : List Disturbance) :
    Keeps deployment (disturbances.foldl disturb deployment) := by
  induction disturbances generalizing deployment with
  | nil => exact .refl deployment
  | cons disturbance rest ih =>
    rw [List.foldl_cons]
    exact (disturb_keeps deployment disturbance).trans (ih _)

theorem exchange_keeps (request : WireRequest) (deployment : Deployment) :
    Keeps deployment (exchange request deployment).2 := by
  unfold exchange
  dsimp only
  split
  · exact .refl deployment
  · have received := disturbances_keep { deployment with receiver :=
        ⟨true, deployment.receiver.script.drop 1, deployment.receiver.log ++ [request]⟩ }
      (deployment.receiver.script.headD lastReaction).meanwhile
    exact ⟨received.deliveries, received.slots, received.history, received.events⟩

theorem wire_keeps {α : Type} (program : Program Wire α) (deployment : Deployment) :
    Keeps deployment (program.run wire deployment).2 := by
  induction program generalizing deployment with
  | done value => exact .refl deployment
  | step request next ih =>
    have kept := exchange_keeps request deployment
    unfold Program.run
    split
    · rename_i reply after answered
      rw [show after = (exchange request deployment).2 from (congrArg Prod.snd answered).symm]
      exact kept.trans (ih reply _)
    · rename_i after silent
      rw [show after = (exchange request deployment).2 from (congrArg Prod.snd silent).symm]
      exact kept

/-- A call whose operation is not made to fail is answered by what is stored. -/
theorem answer_store {deployment : Deployment} {call : StoreCall}
    (sound : ∀ operation, call.operation? = some operation →
      deployment.store.faults.find? operation = none) :
    answer (.store call) deployment = match deployment.store.answer? call with
      | some (reply, store) => (some reply, { deployment with store := store })
      | none => (none, deployment) := by
  have faultless : (call.operation?.bind fun operation =>
      (deployment.store.faults.find? operation).map fun reason => (operation, reason)) = none := by
    cases named : call.operation? with
    | none => rfl
    | some operation => rw [Option.bind_some, sound operation named, Option.map_none]
  simp only [answer, MemoryStore.call, faultless]
  cases deployment.store.answer? call with
  | none => rfl
  | some answered => rfl

theorem answer_now {deployment : Deployment} (unedited : deployment.awaitedEdit = none) :
    answer .now deployment = (some deployment.clock.now, deployment) := by
  simp only [answer, readClock, unedited]
  rw [← unedited]
  rfl

variable {site : Site} {deployment next : Deployment}

private theorem drift_of_same {after : Site}
    (same : ∀ id, after.dossier id = site.dossier id) :
    Conditions.anything.alone.drift site after :=
  ⟨fun id _ => same id, trivial, fun _ _ _ _ => trivial⟩

private theorem drift_of_keeps (shows : site.Shows deployment) (keeps : Keeps deployment next) :
    ∃ after, Conditions.anything.alone.drift site after ∧ after.Shows next := by
  refine ⟨{ site with time := next.clock.now, store := next.store, queue := next.queue },
    drift_of_same fun id => ?_, rfl, rfl, rfl, shows.events.trans keeps.events.symm⟩
  simp [Site.dossier, shows.store, shows.queue, keeps.deliveries, keeps.slots, keeps.history]

private theorem turn_of_store {call : StoreCall} {reply : Except StoreError call.Reply}
    {store : MemoryStore} (shows : site.Shows deployment)
    (answered : deployment.store.call call = (some reply, store)) :
    ∃ turned after, Conditions.anything.Turn (.store call) site reply turned ∧
      Conditions.anything.alone.drift turned after ∧
      after.Shows { deployment with store := store } := by
  unfold MemoryStore.call at answered
  split at answered
  · cases answered
    obtain ⟨after, drift, shown⟩ := drift_of_keeps shows (⟨rfl, rfl, rfl, rfl⟩ : Keeps deployment
      { deployment with store := { deployment.store with
        faults := deployment.store.faults.erase _ } })
    exact ⟨site, after, .inr ⟨trivial, ⟨_, rfl⟩, rfl⟩, drift, shown⟩
  · split at answered
    · rename_i given left answer
      cases answered
      rw [← shows.store] at answer
      refine ⟨_, _, .inl ⟨store, answer, .inl trivial, rfl⟩, drift_of_same fun _ => rfl, ?_⟩
      exact ⟨shows.time, rfl, shows.queue, shows.events⟩
    · cases answered

private theorem turn_of_queue {call : QueueCall} {reply : Except DeliveryError call.Reply}
    (shows : site.Shows deployment) (answered : deployment.callQueue call = (reply, next)) :
    ∃ turned, Conditions.anything.Turn (.queue call) site reply turned ∧ turned.Shows next := by
  have turned (queue : MemoryQueue) (leases : Nat) : ({ site with queue := queue } : Site).Shows
      { deployment with queue := queue, leases := leases } :=
    ⟨shows.time, shows.store, rfl, shows.events⟩
  cases call with
  | enqueue task =>
    cases answered
    refine ⟨_, .inl ⟨_, ?_, .inl trivial, rfl⟩, turned _ deployment.leases⟩
    show site.queue.enqueue task site.time = _
    rw [shows.queue, shows.time]
    rfl
  | claim most lease =>
    simp only [callQueue, ← shows.queue, ← shows.time] at answered
    split at answered
    · rename_i leases queue claimed
      cases answered
      exact ⟨_, .inl ⟨queue, ⟨_, .inl ⟨leases, claimed, rfl⟩⟩, .inl trivial, rfl⟩, turned _ _⟩
    · rename_i error refused
      cases answered
      refine ⟨site, .inl ⟨site.queue, ⟨_, .inr ⟨error, refused, rfl, rfl⟩⟩, .inl trivial, rfl⟩, ?_⟩
      exact shows
  | complete lease =>
    cases answered
    rw [← shows.queue]
    exact ⟨_, .inl ⟨_, ⟨rfl, rfl⟩, .inl trivial, rfl⟩, turned _ deployment.leases⟩

private theorem turn_of_answer {effect : Effect} {reply : effect.Reply}
    (shows : site.Shows deployment) (answered : answer effect deployment = (some reply, next)) :
    ∃ met turned after, Conditions.anything.alone.drift site met ∧
      Conditions.anything.Turn effect met reply turned ∧
      Conditions.anything.alone.drift turned after ∧ after.Shows next := by
  have still := Conditions.anything.alone.drift_refl
  cases effect with
  | now =>
    cases answered
    obtain ⟨met, drift, shown⟩ := drift_of_keeps shows
      (⟨by simp only [readClock]; split <;> rfl, rfl, rfl, rfl⟩ :
        Keeps deployment deployment.readClock.2)
    exact ⟨met, met, met, drift, ⟨shown.time.symm, rfl⟩, still met, shown⟩
  | sleep duration =>
    cases answered
    obtain ⟨after, drift, shown⟩ := drift_of_keeps shows (⟨rfl, rfl, rfl, rfl⟩ : Keeps deployment
      { deployment with
        clock := deployment.clock.advance duration
        sleeps := deployment.sleeps ++ [duration] })
    exact ⟨site, site, after, still site, rfl, drift, shown⟩
  | isCancelled =>
    cases answered
    exact ⟨site, site, site, still site, rfl, still site, shows⟩
  | newDeliveryId =>
    cases answered
    exact ⟨site, site, site, still site, rfl, still site, shows.1, shows.2, shows.3, shows.4⟩
  | drawJitter =>
    cases answered
    exact ⟨site, site, site, still site, rfl, still site, shows⟩
  | store call =>
    cases called : deployment.store.call call with
    | mk given store =>
      simp only [answer, called] at answered
      cases answered
      obtain ⟨turned, after, turn, drift, shown⟩ := turn_of_store shows called
      exact ⟨site, turned, after, still site, turn, drift, shown⟩
  | queue call =>
    cases called : deployment.callQueue call with
    | mk given later =>
      simp only [answer, called] at answered
      cases answered
      obtain ⟨turned, turn, shown⟩ := turn_of_queue shows called
      exact ⟨site, turned, turned, still site, turn, still turned, shown⟩
  | send request =>
    have keeps : Keeps deployment next := by
      rw [show next = (answer (.send request) deployment).2 from (congrArg Prod.snd answered).symm]
      exact wire_keeps (Client.deliver deployment.client request) deployment
    have sent : ({ site with sendings := site.sendings ++ [⟨request, site.time,
        site.store.deliveries.find? request.deliveryId, reply⟩] } : Site).Shows deployment :=
      ⟨shows.time, shows.store, shows.queue, shows.events⟩
    obtain ⟨after, drift, shown⟩ := drift_of_keeps sent keeps
    exact ⟨site, _, after, still site, rfl, drift, shown⟩
  | publish event =>
    cases answered
    refine ⟨site, _, _, still site, rfl, still _, shows.time, shows.store, shows.queue, ?_⟩
    exact congrArg (· ++ [event]) shows.events
  | tally result =>
    cases counted : deployment.stats.record? result with
    | none =>
      simp only [answer, counted] at answered
      cases answered
    | some stats =>
      simp only [answer, counted] at answered
      cases answered
      exact ⟨site, site, site, still site, rfl, still site, shows.1, shows.2, shows.3, shows.4⟩
  | halt => cases answered

private theorem drift_of_silence {effect : Effect} (shows : site.Shows deployment)
    (silent : answer effect deployment = (none, next)) :
    ∃ after, Conditions.anything.alone.drift site after ∧ after.Shows next := by
  refine drift_of_keeps shows ?_
  rw [show next = (answer effect deployment).2 from (congrArg Prod.snd silent).symm]
  cases effect with
  | send request => exact wire_keeps (Client.deliver deployment.client request) deployment
  | halt => exact .refl deployment
  | store call =>
    simp only [answer, MemoryStore.call] at silent ⊢
    split at silent
    · cases silent
    · split at silent
      · cases silent
      · exact .refl deployment
  | tally result =>
    cases counted : deployment.stats.record? result with
    | none =>
      simp only [answer, counted]
      exact .refl deployment
    | some stats =>
      simp only [answer, counted] at silent
      cases silent
  | _ => cases silent

/-- The runs of a deployment in memory are runs at a site that shows it. -/
theorem runs_of_run {program : Program Relay α} {result : Option α} (shows : site.Shows deployment)
    (ran : program.run answer deployment = (result, next)) :
    ∃ after last, program.Runs Conditions.anything.alone site result after ∧
      Conditions.anything.alone.drift after last ∧ last.Shows next := by
  suffices runs : ∀ start, Conditions.anything.alone.drift start site →
      ∃ after last, program.Runs Conditions.anything.alone start result after ∧
        Conditions.anything.alone.drift after last ∧ last.Shows next from
    runs site (Conditions.anything.alone.drift_refl site)
  have trans := Conditions.anything.alone.drift_trans
  induction program generalizing site deployment with
  | done value =>
    intro start drift
    cases ran
    exact ⟨start, site, .done, drift, shows⟩
  | step effect rest ih =>
    intro start drift
    simp only [Program.run] at ran
    split at ran
    · rename_i reply middle answered
      obtain ⟨met, turned, after, before, turn, since, shown⟩ := turn_of_answer shows answered
      obtain ⟨ended, last, run, later, shown⟩ := ih reply shown ran turned since
      exact ⟨ended, last, .step (trans _ _ _ drift before) ⟨turn, fun _ _ _ _ => trivial⟩ run,
        later, shown⟩
    · rename_i middle silent
      cases ran
      obtain ⟨last, later, shown⟩ := drift_of_silence shows silent
      exact ⟨start, last, .brokenOff trivial, trans _ _ _ drift later, shown⟩

end Deployment

end HookRelay
