import HookRelay.Proofs.Worker

namespace HookRelay

open HookRelay.Action

variable {conditions : Conditions} {policy : RetryPolicy} {site after : Site}

/-- A new delivery has been created and nothing else. -/
structure Site.Creates (site : Site) (id : Uuid) (record : DeliveryRecord) (after : Site) :
    Prop where
  fresh : (site.dossier id).record = none
  pending : ∃ owner eventType payload now, record = .pending id owner eventType payload now
  created : after.dossier id = (site.dossier id).created record
  others : ∀ other, other ≠ id → after.dossier other = site.dossier other

/-- A new delivery has been created and put in the queue, and nothing else. -/
structure Site.Accepts (site : Site) (id : Uuid) (after : Site) : Prop where
  fresh : (site.dossier id).record = none
  accepted : ∃ owner eventType payload now due, after.dossier id =
    ((site.dossier id).created (.pending id owner eventType payload now)).scheduled (.now id) due
  others : ∀ other, other ≠ id → after.dossier other = site.dossier other

/-- How an enqueue ends; only if the queue fails is a delivery created in vain. -/
inductive Site.Enqueues (conditions : Conditions) (site : Site) :
    Except DeliveryError Uuid → Site → Prop where
  | accepted {id : Uuid} {after : Site} (accepts : site.Accepts id after) :
      Enqueues conditions site (.ok id) after
  | refused {error : DeliveryError} {after : Site}
      (same : ∀ id, after.dossier id = site.dossier id) :
      Enqueues conditions site (.error error) after
  | stranded {error : DeliveryError} {id : Uuid} {record : DeliveryRecord} {after : Site}
      (fault : conditions.queueFails) (creates : site.Creates id record after) :
      Enqueues conditions site (.error error) after

/-- What an enqueue that is broken off leaves. -/
def Site.Halfway (conditions : Conditions) (site met : Site) : Prop :=
  met.Orderly conditions ∧ conditions.passes site.time met.time ∧
    ((∀ id, met.dossier id = site.dossier id) ∨ ∃ id record, site.Creates id record met)

/-- A site holds this about deliveries, some time later. -/
private structure Shows (conditions : Conditions) (since : Instant) (view : Uuid → Dossier)
    (met : Site) : Prop where
  orderly : met.Orderly conditions
  passed : conditions.passes since met.time
  dossier : ∀ id, met.dossier id = view id

private theorem Shows.drift {since : Instant} {view : Uuid → Dossier}
    (shows : Shows conditions since view site) (drift : conditions.alone.drift site after) :
    Shows conditions since view after :=
  ⟨shows.orderly.drift drift, conditions.passes_trans _ _ _ shows.passed drift.2.1,
    fun id => (drift.1 id trivial).trans (shows.dossier id)⟩

private theorem quiet_heeds {α : Type} {since : Instant} {view : Uuid → Dossier}
    {guard : Effect → Site → Prop} {post : α → Site → Prop} {effect : Effect}
    {next : effect.Reply → Program Relay α} (shows : Shows conditions since view site)
    (silent : ∀ id, ¬effect.Concerns id)
    (guarded : ∀ met, Shows conditions since view met → guard effect met)
    (follows : ∀ reply after, Shows conditions since view after →
      (next reply).Heeds conditions.alone guard post after) :
    Program.Heeds conditions.alone guard post (.step effect next : Program Relay α) site := by
  intro met drift
  have shows := shows.drift drift
  refine ⟨guarded met shows, fun reply after ⟨turn, keeps⟩ => follows reply after ?_⟩
  have same id := Conditions.turn_dossier_eq turn (silent id)
  refine ⟨shows.orderly.of_record keeps fun id => by rw [same id], ?_, fun id => ?_⟩
  · rw [Conditions.turn_time turn]
    exact shows.passed
  · exact (same id).trans (shows.dossier id)

private theorem queue_heeds {id : Uuid} {record : DeliveryRecord} {created : Site}
    (shows : Shows conditions site.time created.dossier after)
    (creates : site.Creates id record created) :
    ((Action.queue (.enqueue (.now id)) >>= fun _ => pure id : Action Uuid).result).Heeds
      conditions.alone (fun _ met => site.Halfway conditions met)
      (fun result after => after.Orderly conditions ∧ conditions.passes site.time after.time ∧
        site.Enqueues conditions result after) after := by
  rw [result_queue_bind]
  intro met drift
  have shows := shows.drift drift
  have creates : site.Creates id record met :=
    ⟨creates.fresh, creates.pending, (shows.dossier id).trans creates.created,
      fun other different => (shows.dossier other).trans (creates.others other different)⟩
  refine ⟨⟨shows.orderly, shows.passed, .inr ⟨id, record, creates⟩⟩,
    fun reply later ⟨turn, keeps⟩ => ?_⟩
  have passed : conditions.passes site.time later.time := Conditions.turn_time turn ▸ shows.passed
  rcases Conditions.turn_enqueue turn with
    ⟨rfl, due, _, changed⟩ | ⟨⟨reason, rfl, fault⟩, same⟩
  · refine ⟨shows.orderly.of_record keeps fun other => ?_, passed, .accepted ?_⟩
    · rw [changed other]
      split
      · rfl
      · rfl
    · obtain ⟨owner, eventType, payload, now, rfl⟩ := creates.pending
      refine ⟨creates.fresh, ⟨owner, eventType, payload, now, due, ?_⟩, fun other different => ?_⟩
      · exact (changed id).trans ((if_pos rfl).trans (by rw [creates.created]))
      · exact (changed other).trans
          ((if_neg (Ne.symm different)).trans (creates.others other different))
  · refine ⟨shows.orderly.of_record keeps fun other => by rw [same other], passed,
      .stranded fault ⟨creates.fresh, creates.pending, ?_, fun other different => ?_⟩⟩
    · exact (same id).trans creates.created
    · exact (same other).trans (creates.others other different)

private theorem create_heeds {id owner : Uuid} {eventType : String} {payload : Json.Value}
    {now : Instant} (shows : Shows conditions site.time site.dossier after) :
    (Action.store (.createDelivery (.pending id owner eventType payload now)) >>= fun _ =>
      Action.queue (.enqueue (.now id)) >>= fun _ => pure id : Action Uuid).result.Heeds
      conditions.alone (fun _ met => site.Halfway conditions met)
      (fun result after => after.Orderly conditions ∧ conditions.passes site.time after.time ∧
        site.Enqueues conditions result after) after := by
  rw [result_store_bind]
  intro met drift
  have shows := shows.drift drift
  refine ⟨⟨shows.orderly, shows.passed, .inl shows.dossier⟩, fun reply later ⟨turn, keeps⟩ => ?_⟩
  have passed : conditions.passes site.time later.time := Conditions.turn_time turn ▸ shows.passed
  rcases Conditions.turn_createDelivery turn with
    ⟨rfl, fresh, changed⟩ | ⟨⟨error, rfl, _⟩, same⟩
  · have created : later.dossier id = (site.dossier id).created
        (.pending id owner eventType payload now) := by
      rw [← shows.dossier id]
      exact (changed id).trans (if_pos rfl)
    have others (other : Uuid) (different : other ≠ id) :
        later.dossier other = site.dossier other := by
      rw [← shows.dossier other]
      exact (changed other).trans (if_neg (Ne.symm different))
    have orderly : later.Orderly conditions := by
      refine ⟨keeps shows.orderly.meets, fun other record found => ?_⟩
      by_cases mine : other = id
      · rw [mine, created] at found
        cases found
        exact mine.symm
      · rw [others other mine, ← shows.dossier other] at found
        exact shows.orderly.filed other record found
    have fresh : (site.dossier id).record = none := by
      rw [← shows.dossier id]
      exact fresh
    exact queue_heeds ⟨orderly, passed, fun _ => rfl⟩ ⟨fresh, ⟨_, _, _, _, rfl⟩, created, others⟩
  · exact ⟨shows.orderly.of_record keeps fun id => by rw [same id], passed,
      .refused fun id => (same id).trans (shows.dossier id)⟩

theorem Dispatch.enqueue_heeds (subscription : Subscription) (eventType : String)
    (payload : Json.Value) (orderly : site.Orderly conditions) :
    (enqueue subscription eventType payload).result.Heeds conditions.alone
      (fun _ met => site.Halfway conditions met)
      (fun result after => after.Orderly conditions ∧ conditions.passes site.time after.time ∧
        site.Enqueues conditions result after) site := by
  have shows : Shows conditions site.time site.dossier site :=
    ⟨orderly, conditions.passes_refl _, fun _ => rfl⟩
  have untouched (met : Site) (shows : Shows conditions site.time site.dossier met) :
      site.Halfway conditions met := ⟨shows.orderly, shows.passed, .inl shows.dossier⟩
  unfold enqueue
  split
  · exact ⟨shows.orderly, shows.passed, .refused shows.dossier⟩
  split
  · exact ⟨shows.orderly, shows.passed, .refused shows.dossier⟩
  rw [result_perform_bind]
  refine quiet_heeds shows nofun untouched fun (now : Instant) met shows => ?_
  rw [result_perform_bind]
  refine quiet_heeds shows nofun untouched fun (id : Uuid) met shows => ?_
  exact create_heeds shows

/-- The delivery that an enqueue has accepted, if it came to that. -/
def acceptedIn : Option (Except DeliveryError Uuid) → List Uuid
  | some (.ok id) => [id]
  | _ => []

/-- What an enqueue makes of any one delivery: it is left as it was, created in vain, or created and
put in the queue. -/
inductive Dossier.Enqueued (id : Uuid) (accepted : List Uuid) (start dossier : Dossier) : Prop where
  | untouched (same : dossier = start) (unaccepted : id ∉ accepted)
  | stranded {owner : Uuid} {eventType : String} {payload : Json.Value} {now : Instant}
      (fresh : start.record = none)
      (created : dossier = start.created (.pending id owner eventType payload now))
      (unaccepted : id ∉ accepted)
  | accepted {owner : Uuid} {eventType : String} {payload : Json.Value} {now due : Instant}
      (fresh : start.record = none)
      (scheduled : dossier =
        (start.created (.pending id owner eventType payload now)).scheduled (.now id) due)

theorem Site.Enqueues.dossier {result : Except DeliveryError Uuid}
    (enqueues : site.Enqueues conditions result after) (id : Uuid) :
    Dossier.Enqueued id (acceptedIn (some result)) (site.dossier id) (after.dossier id) := by
  cases enqueues with
  | @accepted new after accepts =>
    by_cases mine : id = new
    · subst mine
      obtain ⟨owner, eventType, payload, now, due, scheduled⟩ := accepts.accepted
      exact .accepted accepts.fresh scheduled
    · exact .untouched (accepts.others id mine) fun member => mine (List.mem_singleton.mp member)
  | refused same => exact .untouched (same id) List.not_mem_nil
  | @stranded error new record after fault creates =>
    by_cases mine : id = new
    · subst mine
      obtain ⟨owner, eventType, payload, now, rfl⟩ := creates.pending
      exact .stranded creates.fresh creates.created List.not_mem_nil
    · exact .untouched (creates.others id mine) List.not_mem_nil

/-- What happens at a site with one worker, one thing after another, and the deliveries that have been
accepted by then. A run without a result was broken off. -/
inductive Course (conditions : Conditions) (policy : RetryPolicy) (first : Site) :
    List Uuid → Site → Prop where
  | start : Course conditions policy first [] first
  | meanwhile {accepted : List Uuid} {site after : Site}
      (course : Course conditions policy first accepted site)
      (drift : conditions.alone.drift site after) : Course conditions policy first accepted after
  | enqueue {accepted : List Uuid} {site after : Site} {subscription : Subscription}
      {eventType : String} {payload : Json.Value} {result : Option (Except DeliveryError Uuid)}
      (course : Course conditions policy first accepted site)
      (run : (Dispatch.enqueue subscription eventType payload).result.Runs conditions.alone
        site result after) : Course conditions policy first (accepted ++ acceptedIn result) after
  | batch {accepted : List Uuid} {site after : Site} {settings : WorkerSettings}
      {result : Option (Except DeliveryError Nat)}
      (course : Course conditions policy first accepted site)
      (run : (Worker.batch settings policy).result.Runs conditions.alone site result after) :
      Course conditions policy first accepted after

end HookRelay
