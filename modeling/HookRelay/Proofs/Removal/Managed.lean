import HookRelay.Proofs.Removal.Excuse
import HookRelay.Proofs.Serving

namespace HookRelay

/-- Deliveries are enqueued and batches worked on, with calls that may fail where there are faults;
in between, the clock is moved and owners save their subscriptions. It is told which sites there
were, to the present one, and which deliveries have been accepted. -/
inductive Managed (faults : Prop) (policy : RetryPolicy) (first : Site) :
    List Site → List Uuid → Site → Prop where
  | start : Managed faults policy first [first] [] first
  | wait {sites : List Site} {accepted : List Uuid} {site : Site}
      (managed : Managed faults policy first sites accepted site) (now : Instant) :
      Managed faults policy first (sites ++ [{ site with time := now }]) accepted
        { site with time := now }
  | edit {sites : List Site} {accepted : List Uuid} {site : Site} {snapshot : Subscription}
      {store : MemoryStore} (managed : Managed faults policy first sites accepted site)
      (saved : site.store.saveSubscription snapshot = .ok store) :
      Managed faults policy first (sites ++ [{ site with store := store }]) accepted
        { site with store := store }
  | enqueue {sites : List Site} {accepted : List Uuid} {site after : Site}
      {subscription : Subscription} {eventType : String} {payload : Json.Value}
      {result : Option (Except DeliveryError Uuid)}
      (managed : Managed faults policy first sites accepted site)
      (run : (Dispatch.enqueue subscription eventType payload).result.Runs
        (Conditions.keeping faults site.store.subscriptions).alone site result after) :
      Managed faults policy first (sites ++ [after]) (accepted ++ acceptedIn result) after
  | batch {sites : List Site} {accepted : List Uuid} {site after : Site}
      {settings : WorkerSettings} {result : Option (Except DeliveryError Nat)}
      (managed : Managed faults policy first sites accepted site)
      (run : (Worker.batch settings policy).result.Runs
        (Conditions.keeping faults site.store.subscriptions).alone site result after) :
      Managed faults policy first (sites ++ [after]) accepted after

/-- At one of these sites, the owner allowed more attempts than this number. -/
def AllowedAt (sites : List Site) (owner : Uuid) (attempts : Nat) : Prop :=
  ∃ site ∈ sites, ∃ subscription, site.store.subscriptions.find? owner = some subscription ∧
    attempts < subscription.maxAttempts

/-- A delivery is excused at a site, after these others. -/
def Site.Excuses (site : Site) (id : Uuid) (earlier : List Site) : Prop :=
  (site.dossier id).Excused (AllowedAt earlier) site.store.subscriptions

def Site.Loses (site : Site) (id : Uuid) (after : Site) : Prop :=
  (site.queue.slots.find? id).isSome = true ∧ after.queue.slots.find? id = none

/-- At some point a delivery was taken from the queue, and was excused by then. -/
def Released (id : Uuid) (sites : List Site) : Prop :=
  ∃ earlier site after, earlier ++ [site, after] <+: sites ∧ site.Loses id after ∧
    after.Excuses id (earlier ++ [site])

theorem AllowedAt.append {sites : List Site} {owner : Uuid} {attempts : Nat}
    (allowed : AllowedAt sites owner attempts) (later : List Site) :
    AllowedAt (sites ++ later) owner attempts := by
  obtain ⟨site, member, rest⟩ := allowed
  exact ⟨site, List.mem_append_left later member, rest⟩

theorem Released.append {id : Uuid} {sites : List Site} (released : Released id sites)
    (later : List Site) : Released id (sites ++ later) := by
  obtain ⟨earlier, site, after, before, rest⟩ := released
  exact ⟨earlier, site, after, before.trans (List.prefix_append sites later), rest⟩

namespace Managed

variable {faults : Prop} {policy : RetryPolicy} {first site after : Site} {sites : List Site}
  {accepted : List Uuid} {id : Uuid}

/-- What a run keeps at its sites. -/
private structure Sound (sites : List Site) (site : Site) : Prop where
  present : ∃ earlier, sites = earlier ++ [site]
  filed : ∀ id, (site.dossier id).Filed id
  told : ∀ id, (site.dossier id).Told (AllowedAt sites)

private theorem Sound.orderly (sound : Sound sites site) (faults : Prop) :
    site.Orderly (.keeping faults site.store.subscriptions) :=
  ⟨fun _ _ _ => rfl, sound.filed⟩

private theorem Sound.mem (sound : Sound sites site) : site ∈ sites := by
  obtain ⟨earlier, rfl⟩ := sound.present
  exact List.mem_append_right earlier (List.mem_singleton.mpr rfl)

private theorem Sound.of_same (sound : Sound sites site)
    (same : ∀ id, after.dossier id = site.dossier id) : Sound (sites ++ [after]) after := by
  refine ⟨⟨sites, rfl⟩, fun id => ?_, fun id => ?_⟩
  · rw [same id]
    exact sound.filed id
  · rw [same id]
    exact (sound.told id).mono fun _ _ allowed => allowed.append _

private theorem dossier_of_saved {snapshot : Subscription} {store : MemoryStore}
    (saved : site.store.saveSubscription snapshot = .ok store) (id : Uuid) :
    Site.dossier { site with store := store } id = site.dossier id := by
  unfold MemoryStore.saveSubscription at saved
  split at saved
  · cases saved
  · cases saved
    rfl

private theorem told_of_enqueues {result : Except DeliveryError Uuid} {conditions : Conditions}
    (sound : Sound sites site) (enqueues : site.Enqueues conditions result after) (id : Uuid) :
    (after.dossier id).Told (AllowedAt (sites ++ [after])) := by
  cases enqueues.dossier id with
  | untouched same unaccepted =>
    rw [same]
    exact (sound.told id).mono fun _ _ allowed => allowed.append [after]
  | stranded fresh created unaccepted => exact created ▸ Dossier.told_of_record rfl nofun
  | accepted fresh scheduled => exact scheduled ▸ Dossier.told_of_record rfl nofun

private theorem slot_of_enqueues {result : Except DeliveryError Uuid} {conditions : Conditions}
    (enqueues : site.Enqueues conditions result after)
    (queued : (site.dossier id).slot.isSome = true ∨ id ∈ acceptedIn (some result)) :
    (after.dossier id).slot.isSome = true := by
  cases enqueues.dossier id with
  | untouched same unaccepted => exact same ▸ queued.resolve_right unaccepted
  | stranded fresh created unaccepted =>
    rw [created]
    exact queued.resolve_right unaccepted
  | accepted fresh scheduled =>
    rw [scheduled]
    rfl

private theorem batch_leaves {settings : WorkerSettings}
    {result : Option (Except DeliveryError Nat)} (sound : Sound sites site)
    (run : (Worker.batch settings policy).result.Runs
      (Conditions.keeping faults site.store.subscriptions).alone site result after) (id : Uuid) :
    after.Orderly (.keeping faults site.store.subscriptions) ∧
      (after.dossier id).Told (AllowedAt sites) ∧
      ((site.dossier id).slot.isSome = true → (after.dossier id).slot.isSome = true ∨
        (after.dossier id).Excused (AllowedAt sites) site.store.subscriptions) :=
  (Dossier.Told.upkeep faults policy id ((site.dossier id).slot.isSome = true)
    fun _ _ _ found less => ⟨site, sound.mem, _, found, less⟩).kept_of_batch
    (sound.orderly faults) ⟨sound.told id, .inl⟩ run

private theorem sound (new : ∀ id, first.store.deliveries.find? id = none)
    (managed : Managed faults policy first sites accepted site) : Sound sites site := by
  induction managed with
  | start =>
    refine ⟨⟨[], rfl⟩, fun id record stored => ?_, fun id record stored => ?_⟩
    · cases (new id).symm.trans stored
    · cases (new id).symm.trans stored
  | wait managed now ih => exact ih.of_same fun _ => rfl
  | edit managed saved ih => exact ih.of_same (dossier_of_saved saved)
  | @enqueue sites accepted site after subscription eventType payload result managed run ih =>
    have ended := run.heeded
      (Dispatch.enqueue_heeds subscription eventType payload (ih.orderly faults))
    cases result with
    | none => exact (run.allowed rfl : False).elim
    | some result =>
      obtain ⟨orderly, _, enqueues⟩ := ended
      exact ⟨⟨sites, rfl⟩, orderly.filed, told_of_enqueues ih enqueues⟩
  | @batch sites accepted site after settings result managed run ih =>
    refine ⟨⟨sites, rfl⟩, (batch_leaves ih run ⟨0⟩).1.filed, fun id => ?_⟩
    exact (batch_leaves ih run id).2.1.mono fun _ _ allowed => allowed.append _

private theorem excused_of_loses {settings : WorkerSettings}
    {result : Option (Except DeliveryError Nat)} (sound : Sound sites site)
    (run : (Worker.batch settings policy).result.Runs
      (Conditions.keeping faults site.store.subscriptions).alone site result after)
    (loses : site.Loses id after) : after.Excuses id sites := by
  obtain ⟨orderly, _, kept⟩ := batch_leaves sound run id
  refine ((kept loses.1).resolve_left fun left => ?_).of_terms fun record stored => ?_
  · rw [show (after.dossier id).slot = none from loses.2] at left
    cases left
  · have met := orderly.meets id record stored
    exact met

private theorem queued_or_released (new : ∀ id, first.store.deliveries.find? id = none)
    (managed : Managed faults policy first sites accepted site) (member : id ∈ accepted) :
    (site.dossier id).slot.isSome = true ∨ Released id sites := by
  induction managed with
  | start => exact absurd member List.not_mem_nil
  | wait managed now ih => exact (ih member).imp_right fun released => released.append _
  | edit managed saved ih =>
    rw [dossier_of_saved saved]
    exact (ih member).imp_right fun released => released.append _
  | @enqueue sites accepted site after subscription eventType payload result managed run ih =>
    have ended := run.heeded
      (Dispatch.enqueue_heeds subscription eventType payload ((managed.sound new).orderly faults))
    cases result with
    | none => exact (run.allowed rfl : False).elim
    | some result =>
      obtain ⟨_, _, enqueues⟩ := ended
      rcases List.mem_append.mp member with before | fresh
      · rcases ih before with queued | released
        · exact .inl (slot_of_enqueues enqueues (.inl queued))
        · exact .inr (released.append _)
      · exact .inl (slot_of_enqueues enqueues (.inr fresh))
  | @batch sites accepted site after settings result managed run ih =>
    rcases ih member with queued | released
    · have sound := managed.sound new
      cases left : after.queue.slots.find? id with
      | some slot => exact .inl (Option.isSome_of_eq_some left)
      | none =>
        obtain ⟨earlier, rfl⟩ := sound.present
        refine .inr ⟨earlier, site, after, ?_, ⟨queued, left⟩,
          excused_of_loses sound run ⟨queued, left⟩⟩
        rw [List.append_assoc]
        exact List.prefix_rfl
    · exact .inr (released.append _)

/-- However owners edit their subscriptions between batches, a batch takes from the queue only what
is excused by then; what was accepted is in the queue, or was released in this way. -/
theorem taken_with_excuse (new : ∀ id, first.store.deliveries.find? id = none)
    (managed : Managed faults policy first sites accepted site) (id : Uuid) :
    (∀ (settings : WorkerSettings) (result : Option (Except DeliveryError Nat)) (after : Site),
      (Worker.batch settings policy).result.Runs
        (Conditions.keeping faults site.store.subscriptions).alone site result after →
      site.Loses id after → after.Excuses id sites) ∧
    (id ∈ accepted → (site.queue.slots.find? id).isSome = true ∨ Released id sites) :=
  ⟨fun _ _ _ run loses => excused_of_loses (managed.sound new) run loses,
    managed.queued_or_released new⟩

/-- Whether deliveries find these subscriptions, on the same terms. -/
private def keeps (subscriptions : Table Uuid Subscription) (site : Site) : Bool :=
  site.finds fun record found => found.map Subscription.terms =
    (subscriptions.find? record.subscriptionId).map Subscription.terms

private theorem meets_of_keeps (faults : Prop) (subscriptions : Table Uuid Subscription)
    (site : Site) (kept : keeps subscriptions site = true) :
    (Conditions.keeping faults subscriptions).Meets site := by
  refine Site.meets_of_finds (fun record found same => ?_) kept
  show found.map Subscription.terms =
    (subscriptions.find? record.subscriptionId).map Subscription.terms
  exact of_decide_eq_true same

/-- What comes of a program when receivers refuse every request. -/
private def refused {α : Type} (program : Program Relay α) (site : Site) : Option α × Site :=
  program.run (Site.serve (fun _ => .ok ⟨500, ""⟩) (keeps site.store.subscriptions)) site

private theorem runs_refused {α : Type} (faults : Prop) (program : Program Relay α) (site : Site)
    (ended : (refused program site).1.isSome = true) :
    program.Runs (Conditions.keeping faults site.store.subscriptions).alone site
      (refused program site).1 (refused program site).2 :=
  Site.runs_serve _ _ (meets_of_keeps faults _) fun stopped => by
    unfold refused at ended
    simp [stopped] at ended

private def edited (snapshot : Subscription) (site : Site) : Site :=
  { site with store := (site.store.saveSubscription snapshot).toOption.getD site.store }

private theorem edit_edited {snapshot : Subscription}
    (managed : Managed faults policy first sites accepted site)
    (known : (site.store.saveSubscription snapshot).isOk = true) :
    Managed faults policy first (sites ++ [edited snapshot site]) accepted
      (edited snapshot site) := by
  cases saved : site.store.saveSubscription snapshot with
  | error error =>
    rw [saved] at known
    cases known
  | ok store =>
    have same : edited snapshot site = { site with store := store } := by
      rw [edited, saved]
      rfl
    rw [same]
    exact .edit managed saved

private def ordered : Option (Except DeliveryError Uuid) × Site :=
  refused (Dispatch.enqueue .ofOrders "order.created" .null).result (.opened .ofOrders)

private theorem enqueue_ordered (faults : Prop) : Managed faults .standard (.opened .ofOrders)
    [.opened .ofOrders, ordered.2] [⟨0⟩] ordered.2 := by
  have accepted : acceptedIn ordered.1 = [⟨0⟩] := by decide +kernel
  have opening : Managed faults .standard (.opened .ofOrders) [.opened .ofOrders] []
      (.opened .ofOrders) := .start
  rw [← accepted]
  exact opening.enqueue (runs_refused faults _ _ (by decide +kernel))

private def paused : Site := edited { Subscription.ofOrders with status := .paused } ordered.2

private def skipped : Option (Except DeliveryError Nat) × Site :=
  refused (Worker.batch .standard .standard).result paused

private def tried : Option (Except DeliveryError Nat) × Site :=
  refused (Worker.batch .standard .standard).result ordered.2

/-- The owner allows no more than the one attempt that has failed, and its retry falls due. -/
private def lowered : Site :=
  { edited { Subscription.ofOrders with maxAttempts := 1 } tried.2 with time := .ofSeconds 100 }

private def dropped : Option (Except DeliveryError Nat) × Site :=
  refused (Worker.batch .standard .standard).result lowered

private theorem managed_paused (faults : Prop) : ∃ sites,
    Managed faults .standard (.opened .ofOrders) sites [⟨0⟩] paused :=
  ⟨_, edit_edited (enqueue_ordered faults) (by decide +kernel)⟩

private theorem managed_lowered (faults : Prop) : ∃ sites,
    Managed faults .standard (.opened .ofOrders) sites [⟨0⟩] lowered := by
  have tried : Managed faults .standard (.opened .ofOrders) _ [⟨0⟩] tried.2 :=
    (enqueue_ordered faults).batch (runs_refused faults _ _ (by decide +kernel))
  exact ⟨_, (edit_edited tried (by decide +kernel)).wait _⟩

/-- The owner's lower limit releases a delivery that has failed once. -/
theorem taken_when_curtailed : ∃ sites site after result,
    Managed False .standard (.opened .ofOrders) sites [⟨0⟩] site ∧
      (Worker.batch .standard .standard).result.Runs
        (Conditions.keeping False site.store.subscriptions).alone site result after ∧
      site.Loses ⟨0⟩ after ∧ after.Excuses ⟨0⟩ sites := by
  obtain ⟨sites, managed⟩ := managed_lowered False
  have run := runs_refused False (Worker.batch .standard .standard).result lowered
    (by decide +kernel)
  have loses : lowered.Loses ⟨0⟩ dropped.2 := ⟨by decide +kernel, by decide +kernel⟩
  exact ⟨sites, lowered, dropped.2, dropped.1, managed, run, loses,
    (managed.taken_with_excuse (fun _ => rfl) ⟨0⟩).1 _ _ _ run loses⟩

/-- Whether a delivery with this status is still open: neither done nor reported, and its
subscription is there. -/
private def leavesOpen (status : DeliveryStatus) (site : Site) : Bool :=
  ((site.dossier ⟨0⟩).record.any fun record => record.status = status &&
    (site.store.subscriptions.find? record.subscriptionId).isSome) &&
    (site.dossier ⟨0⟩).events.all fun event => !event.isExhausted

private theorem not_closed_of_leavesOpen {status : DeliveryStatus}
    (left : leavesOpen status site = true) (undone : status ≠ .successful) :
    (site.dossier ⟨0⟩).record.map DeliveryRecord.status = some status ∧
      ¬(site.dossier ⟨0⟩).Closed site.store.subscriptions := by
  obtain ⟨shape, silent⟩ := Bool.and_eq_true_iff.mp left
  obtain ⟨record, stored, shape⟩ := (Option.any_eq_true _ _).mp shape
  obtain ⟨rfl, known⟩ : record.status = status ∧
      (site.store.subscriptions.find? record.subscriptionId).isSome = true := by
    simpa using shape
  refine ⟨by rw [stored, Option.map_some], fun closed => ?_⟩
  cases closed with
  | missing absent => cases absent.symm.trans stored
  | delivered found successful =>
    cases found.symm.trans stored
    exact undone successful
  | reported published exhausted =>
    have quiet := List.all_eq_true.mp silent _ published
    simp [exhausted] at quiet
  | orphaned found unknown =>
    cases found.symm.trans stored
    simp [unknown] at known

/-- Without any fault, a batch drops a delivery whose record has a status, and nothing has come of
the delivery. -/
def DropsUnclosed (status : DeliveryStatus) : Prop :=
  ∃ sites site after result,
    Managed False .standard (.opened .ofOrders) sites [⟨0⟩] site ∧
    (Worker.batch .standard .standard).result.Runs
      (Conditions.keeping False site.store.subscriptions).alone site result after ∧
    site.Loses ⟨0⟩ after ∧
    (after.dossier ⟨0⟩).record.map DeliveryRecord.status = some status ∧
    ¬(after.dossier ⟨0⟩).Closed after.store.subscriptions

/-- A delivery is dropped without an attempt as its subscription is paused, and another after it has
failed as its limit was lowered. -/
theorem dropped_unclosed : DropsUnclosed .pending ∧ DropsUnclosed .failed := by
  constructor
  · obtain ⟨sites, managed⟩ := managed_paused False
    have run := runs_refused False (Worker.batch .standard .standard).result paused
      (by decide +kernel)
    exact ⟨sites, paused, skipped.2, skipped.1, managed, run,
      ⟨by decide +kernel, by decide +kernel⟩,
      not_closed_of_leavesOpen (by decide +kernel) nofun⟩
  · obtain ⟨sites, managed⟩ := managed_lowered False
    have run := runs_refused False (Worker.batch .standard .standard).result lowered
      (by decide +kernel)
    exact ⟨sites, lowered, dropped.2, dropped.1, managed, run,
      ⟨by decide +kernel, by decide +kernel⟩,
      not_closed_of_leavesOpen (by decide +kernel) nofun⟩

end Managed

end HookRelay
