import HookRelay.Proofs.Dispatch.Work

/-!
One worker alone at a site: nothing else touches deliveries while it works on its batch. What the
worker keeps of one delivery through a batch is shown from four facts about that delivery alone.
-/
namespace HookRelay

open HookRelay.Action HookRelay.Attempt

/-- The surroundings of all that one worker and its callers do, one thing after another. -/
def Conditions.alone (conditions : Conditions) : Surroundings Relay Site :=
  conditions.around fun _ => True

/-- Subscriptions are found as they may be, and records are held under their own ids. -/
structure Site.Orderly (conditions : Conditions) (site : Site) : Prop where
  meets : conditions.Meets site
  filed : ∀ id, (site.dossier id).Filed id

variable {conditions : Conditions} {policy : RetryPolicy} {id : Uuid} {site after : Site}

theorem Site.Orderly.of_record (orderly : site.Orderly conditions)
    (meets : conditions.Meets site → conditions.Meets after)
    (same : ∀ id, (after.dossier id).record = (site.dossier id).record) :
    after.Orderly conditions := by
  refine ⟨meets orderly.meets, fun id record found => ?_⟩
  rw [same id] at found
  exact orderly.filed id record found

theorem Site.Orderly.drift (orderly : site.Orderly conditions)
    (drift : conditions.alone.drift site after) : after.Orderly conditions := by
  obtain ⟨same, _, keeps⟩ := drift
  exact orderly.of_record keeps fun id => by rw [same id trivial]

/-- Where work on one delivery has led, when it began at `site`. -/
structure Site.Leads (conditions : Conditions) (id : Uuid) (site after : Site) : Prop where
  orderly : after.Orderly conditions
  passed : conditions.passes site.time after.time
  others : ∀ other, other ≠ id → after.dossier other = site.dossier other

/-- What holds apart from the delivery that is worked on. -/
private structure Apart (conditions : Conditions) (id : Uuid) (site after : Site) : Prop where
  meets : conditions.Meets after
  passed : conditions.passes site.time after.time
  others : ∀ other, other ≠ id → after.dossier other = site.dossier other

private theorem Apart.drift {met later : Site} (drift : conditions.alone.drift met later)
    (apart : Apart conditions id site met) : Apart conditions id site later := by
  obtain ⟨same, passed, keeps⟩ := drift
  refine ⟨keeps apart.meets, conditions.passes_trans _ _ _ apart.passed passed, ?_⟩
  exact fun other different => (same other trivial).trans (apart.others other different)

private theorem Apart.turn {effect : Effect} {reply : effect.Reply} {start : Dossier}
    {since : Instant} {met later : Site} (filed : start.Filed id)
    (doing : Doing conditions policy id start since effect (met.dossier id))
    (turn : conditions.alone.turn effect met reply later) (apart : Apart conditions id site met) :
    Apart conditions id site later := by
  obtain ⟨turn, keeps⟩ := turn
  refine ⟨keeps apart.meets, ?_, fun other different => ?_⟩
  · rw [Conditions.turn_time turn]
    exact apart.passed
  · exact (Conditions.turn_dossier_eq turn (doing.apart filed different)).trans
      (apart.others other different)

private theorem Apart.leads (apart : Apart conditions id site after)
    (filed : ∀ id, (site.dossier id).Filed id) (own : (after.dossier id).Filed id) :
    site.Leads conditions id after := by
  refine ⟨⟨apart.meets, fun other => ?_⟩, apart.passed, apart.others⟩
  by_cases mine : other = id
  · exact mine ▸ own
  · rw [apart.others other mine]
    exact filed other

theorem Dispatch.process_alone (policy : RetryPolicy) (id : Uuid)
    (orderly : site.Orderly conditions) :
    (process policy id).result.Heeds conditions.alone
      (fun _ met => site.Leads conditions id met ∧
        Stage conditions policy id (site.dossier id) site.time (met.dossier id))
      (fun result after => site.Leads conditions id after ∧
        Concludes conditions policy id (site.dossier id) site.time result (after.dossier id))
      site := by
  have works : Works conditions policy (fun _ => True) id (site.dossier id) site.time
      (process policy id).result site :=
    process_works trivial (orderly.filed id) ⟨rfl, conditions.passes_refl _, orderly.meets⟩
  have kept := Program.Heeds.keep works
    (⟨orderly.meets, conditions.passes_refl _, fun _ _ => rfl⟩ : Apart conditions id site site)
    (fun met later => Apart.drift) (fun effect met reply later => Apart.turn (orderly.filed id))
  refine Program.Heeds.mono kept ?_ ?_
  · intro effect met ⟨doing, apart⟩
    exact ⟨apart.leads (orderly.filed) (doing.stage.filed (orderly.filed id)), doing.stage⟩
  · intro result later ⟨concludes, apart⟩
    obtain ⟨staged, stage, same, _⟩ := concludes.stage
    have filed : (later.dossier id).Filed id := by
      unfold Dossier.Filed
      rw [same]
      exact stage.filed (orderly.filed id)
    exact ⟨apart.leads (orderly.filed) filed, concludes⟩

/-- What one worker keeps of a delivery: `held` as long as it may wait in the queue, and `claimed`
while it is in the batch that the worker is at. -/
structure Upkeep (conditions : Conditions) (policy : RetryPolicy) (id : Uuid)
    (held claimed : Instant → Dossier → Prop) : Prop where
  holds : ∀ now later dossier, conditions.passes now later → held now dossier → held later dossier
  waits : ∀ now later dossier, conditions.passes now later → claimed now dossier →
    claimed later dossier
  claims : ∀ now dossier slot ends leaseId, held now dossier → dossier.slot = some slot →
    slot.due ≤ now → claimed now (dossier.leased ends leaseId)
  drops : conditions.breaksOff → ∀ since now start dossier, claimed since start →
    conditions.passes since now → Stage conditions policy id start since dossier → held now dossier
  concludes : ∀ since now start dossier result, claimed since start → conditions.passes since now →
    Concludes conditions policy id start since result dossier → held now dossier ∧
      (Worker.isSettled result = true → ∀ lease, held now (dossier.completed lease))

namespace Upkeep

variable {held claimed : Instant → Dossier → Prop} {pending : List Uuid}

/-- What is kept of the delivery while these deliveries are still to be worked on. -/
def Attends (conditions : Conditions) (id : Uuid) (held claimed : Instant → Dossier → Prop)
    (pending : List Uuid) (site : Site) : Prop :=
  site.Orderly conditions ∧
    if id ∈ pending then claimed site.time (site.dossier id) else held site.time (site.dossier id)

/-- What a worker that is broken off leaves. -/
def Leaves (conditions : Conditions) (id : Uuid) (held : Instant → Dossier → Prop)
    (site : Site) : Prop :=
  conditions.breaksOff → site.Orderly conditions ∧ held site.time (site.dossier id)

private theorem drift (upkeep : Upkeep conditions policy id held claimed)
    (attends : Attends conditions id held claimed pending site)
    (drift : conditions.alone.drift site after) :
    Attends conditions id held claimed pending after := by
  obtain ⟨orderly, kept⟩ := attends
  refine ⟨orderly.drift drift, ?_⟩
  obtain ⟨same, passed, _⟩ := drift
  rw [same id trivial]
  split at kept
  · rename_i member
    rw [if_pos member]
    exact upkeep.waits _ _ _ passed kept
  · rename_i absent
    rw [if_neg absent]
    exact upkeep.holds _ _ _ passed kept

private theorem leaves (upkeep : Upkeep conditions policy id held claimed)
    (attends : Attends conditions id held claimed pending site) :
    Leaves conditions id held site := by
  obtain ⟨orderly, kept⟩ := attends
  intro breaks
  refine ⟨orderly, ?_⟩
  split at kept
  · exact upkeep.drops breaks _ _ _ _ kept (conditions.passes_refl _) .waiting
  · exact kept

/-- A delivery has been worked on, with this result: the rest is to be attended to, and if the result
settles it, giving up any lease is fine. -/
private structure Worked (conditions : Conditions) (id : Uuid)
    (held claimed : Instant → Dossier → Prop) (rest : List Uuid) (lease : Lease)
    (result : Except DeliveryError Outcome) (site : Site) : Prop where
  attends : Attends conditions id held claimed rest site
  settled : lease.deliveryId = id → Worker.isSettled result = true →
    id ∉ rest ∧ held site.time ((site.dossier id).completed lease)

private theorem worked (upkeep : Upkeep conditions policy id held claimed) {rest : List Uuid}
    {lease : Lease} {result : Except DeliveryError Outcome} (fresh : lease.deliveryId ∉ rest)
    (attends : Attends conditions id held claimed (lease.deliveryId :: rest) site)
    (leads : site.Leads conditions lease.deliveryId after)
    (concludes : Concludes conditions policy lease.deliveryId (site.dossier lease.deliveryId)
      site.time result (after.dossier lease.deliveryId)) :
    Worked conditions id held claimed rest lease result after := by
  by_cases mine : lease.deliveryId = id
  · subst mine
    have kept : claimed site.time (site.dossier lease.deliveryId) := by
      have kept := attends.2
      rwa [if_pos List.mem_cons_self] at kept
    obtain ⟨left, settled⟩ := upkeep.concludes _ _ _ _ _ kept leads.passed concludes
    refine ⟨⟨leads.orderly, ?_⟩, fun _ done => ⟨fresh, settled done lease⟩⟩
    rwa [if_neg fresh]
  · refine ⟨⟨leads.orderly, ?_⟩, fun same => absurd same mine⟩
    have kept := attends.2
    rw [leads.others id (Ne.symm mine)]
    split at kept
    · rename_i member
      rw [if_pos ((List.mem_cons.mp member).resolve_left (Ne.symm mine))]
      exact upkeep.waits _ _ _ leads.passed kept
    · rename_i absent
      rw [if_neg fun member => absent (List.mem_cons_of_mem _ member)]
      exact upkeep.holds _ _ _ leads.passed kept

private theorem tally_heeds (upkeep : Upkeep conditions policy id held claimed) {rest : List Uuid}
    {result : Except DeliveryError Outcome}
    (attends : Attends conditions id held claimed rest site) :
    Program.Heeds conditions.alone (fun _ met => Leaves conditions id held met)
      (fun _ after => Attends conditions id held claimed rest after)
      (.step (.tally result) .done : Program Relay Unit) site := by
  intro met drift
  have attends := upkeep.drift attends drift
  refine ⟨upkeep.leaves attends, fun reply after ⟨turn, _⟩ => ?_⟩
  cases turn
  exact attends

private theorem complete_heeds (upkeep : Upkeep conditions policy id held claimed)
    {rest : List Uuid} {lease : Lease} {result : Except DeliveryError Outcome}
    (done : Worker.isSettled result = true)
    (worked : Worked conditions id held claimed rest lease result site) :
    Program.Heeds conditions.alone (fun _ met => Leaves conditions id held met)
      (fun _ after => Attends conditions id held claimed rest after)
      (.step (.queue (.complete lease)) fun _ => .step (.tally result) .done :
        Program Relay Unit) site := by
  intro met drift
  have attends := upkeep.drift worked.attends drift
  refine ⟨upkeep.leaves attends, fun reply after ⟨turn, keeps⟩ => upkeep.tally_heeds ?_⟩
  obtain ⟨same, passed, _⟩ := drift
  obtain ⟨orderly, kept⟩ := attends
  unfold Attends
  rw [Conditions.turn_time turn]
  rcases Conditions.turn_complete turn with changed | ⟨_, unchanged⟩
  · refine ⟨orderly.of_record keeps fun other => ?_, ?_⟩
    · rw [changed other]
      split
      · rfl
      · rfl
    · rw [changed id]
      by_cases mine : lease.deliveryId = id
      · obtain ⟨absent, completed⟩ := worked.settled mine done
        rw [if_pos mine, if_neg absent, same id trivial]
        exact upkeep.holds _ _ _ passed completed
      · rw [if_neg mine]
        exact kept
  · refine ⟨orderly.of_record keeps fun other => by rw [unchanged other], ?_⟩
    rw [unchanged id]
    exact kept

theorem processOne_heeds (upkeep : Upkeep conditions policy id held claimed) {rest : List Uuid}
    {lease : Lease} (fresh : lease.deliveryId ∉ rest)
    (attends : Attends conditions id held claimed (lease.deliveryId :: rest) site) :
    (Worker.processOne policy lease).Heeds conditions.alone
      (fun _ met => Leaves conditions id held met)
      (fun _ after => Attends conditions id held claimed rest after) site := by
  unfold Worker.processOne
  rw [Program.heeds_bind]
  refine Program.Heeds.mono (Dispatch.process_alone policy lease.deliveryId attends.1) ?_ ?_
  · intro effect met ⟨leads, stage⟩ breaks
    refine ⟨leads.orderly, ?_⟩
    have kept := attends.2
    by_cases mine : lease.deliveryId = id
    · subst mine
      rw [if_pos List.mem_cons_self] at kept
      exact upkeep.drops breaks _ _ _ _ kept leads.passed stage
    · rw [leads.others id (Ne.symm mine)]
      exact upkeep.holds _ _ _ leads.passed (upkeep.leaves attends breaks).2
  · intro result later ⟨leads, concludes⟩
    have worked := upkeep.worked fresh attends leads concludes
    split
    · rename_i done
      exact upkeep.complete_heeds done worked
    · exact upkeep.tally_heeds worked.attends

theorem processEach_heeds (upkeep : Upkeep conditions policy id held claimed) {leases : List Lease}
    (distinct : (leases.map Lease.deliveryId).Nodup)
    (attends : Attends conditions id held claimed (leases.map Lease.deliveryId) site) :
    (Worker.processEach policy leases).Heeds conditions.alone
      (fun _ met => Leaves conditions id held met)
      (fun _ after => Attends conditions id held claimed [] after) site := by
  induction leases generalizing site with
  | nil => exact attends
  | cons lease rest ih =>
    rw [List.map_cons, List.nodup_cons] at distinct
    unfold Worker.processEach
    rw [Program.heeds_bind]
    refine Program.Heeds.mono (upkeep.processOne_heeds distinct.1 attends) (fun _ _ left => left) ?_
    exact fun _ later attends => ih distinct.2 attends

/-- What one batch does to the delivery, whatever else is in the batch. -/
theorem batch_heeds (upkeep : Upkeep conditions policy id held claimed) (settings : WorkerSettings)
    (attends : Attends conditions id held claimed [] site) :
    (Worker.batch settings policy).result.Heeds conditions.alone
      (fun _ met => Leaves conditions id held met)
      (fun _ after => Attends conditions id held claimed [] after) site := by
  unfold Worker.batch
  rw [result_queue_bind]
  intro met drift
  have attends := upkeep.drift attends drift
  refine ⟨upkeep.leaves attends, fun reply after ⟨turn, keeps⟩ => ?_⟩
  obtain ⟨orderly, kept⟩ := attends
  rw [if_neg List.not_mem_nil] at kept
  have time := Conditions.turn_time turn
  rcases Conditions.turn_claim turn with
    ⟨leases, leaseId, ends, rfl, distinct, _, changed⟩ | ⟨⟨reason, rfl, _⟩, unchanged⟩
  · have attends : Attends conditions id held claimed (leases.map Lease.deliveryId) after := by
      refine ⟨orderly.of_record keeps fun other => ?_, ?_⟩
      · have moved := changed other
        split at moved
        · rw [moved.2]
          rfl
        · rw [moved]
      · have moved := changed id
        split at moved
        · rename_i member
          obtain ⟨⟨slot, found, due⟩, leased⟩ := moved
          rw [if_pos member, leased, time]
          exact upkeep.claims _ _ slot _ _ kept found due
        · rename_i absent
          rw [if_neg absent, moved, time]
          exact kept
    dsimp only
    rw [result_lift_bind, Program.heeds_bind]
    exact upkeep.processEach_heeds distinct attends
  · refine ⟨orderly.of_record keeps fun other => by rw [unchanged other], ?_⟩
    rw [if_neg List.not_mem_nil, unchanged id, time]
    exact kept

/-- What is kept of the delivery is still kept after a batch, even one that is broken off. -/
theorem kept_of_batch (upkeep : Upkeep conditions policy id held claimed)
    {settings : WorkerSettings} {result : Option (Except DeliveryError Nat)}
    (orderly : site.Orderly conditions) (kept : held site.time (site.dossier id))
    (run : (Worker.batch settings policy).result.Runs conditions.alone site result after) :
    after.Orderly conditions ∧ held after.time (after.dossier id) := by
  have attends : Attends conditions id held claimed [] site :=
    ⟨orderly, by rw [if_neg List.not_mem_nil]; exact kept⟩
  have ended := run.heeded (upkeep.batch_heeds settings attends)
  cases result with
  | some result =>
    obtain ⟨orderly, kept⟩ := ended
    rw [if_neg List.not_mem_nil] at kept
    exact ⟨orderly, kept⟩
  | none =>
    obtain ⟨_, left⟩ := ended
    exact left (run.allowed rfl)

end Upkeep

end HookRelay
