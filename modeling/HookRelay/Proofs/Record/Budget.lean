import Mathlib.Data.List.Perm.Subperm
import HookRelay.Proofs.Interleaving
import HookRelay.Proofs.Record.Transition

/-!
The budget of attempts, as records, the retry schedule and requests have it. They agree on every limit
but none at all: under that, a new record may still be attempted, and its one request is sent.
-/
namespace HookRelay

open HookRelay.Attempt

namespace DeliveryRecord

/-- A record leaves room for attempts where the retry schedule does, and only there. -/
structure AgreesOn (record : DeliveryRecord) (most : Nat) : Prop where
  able : record.canAttempt most = true ↔
    (record.status = .pending ∨ record.status = .failed) ∧
      RetryPolicy.isExhausted record.attempts most = false
  terminal : record.isTerminal most = true ↔
    record.status = .successful ∨ (record.status = .pending ∨ record.status = .failed) ∧
      RetryPolicy.isExhausted record.attempts most = true

variable {record next : DeliveryRecord}

theorem Coherent.agreesOn_iff (coherent : record.Coherent) (most : Nat) :
    record.AgreesOn most ↔ ¬(record.status = .pending ∧ most = 0) := by
  constructor
  · rintro agrees ⟨fresh, rfl⟩
    have able : record.canAttempt 0 = true := by rw [canAttempt, fresh]
    have left := (agrees.able.mp able).2
    cases left
  · intro apart
    cases status : record.status with
    | pending =>
      have left : ¬most ≤ record.attempts := by
        rw [coherent.pending.mp status]
        exact fun spent => apart ⟨status, Nat.le_zero.mp spent⟩
      constructor
      · simp [canAttempt, status, RetryPolicy.isExhausted, left]
      · simp [isTerminal, status, RetryPolicy.isExhausted, left]
    | failed =>
      constructor
      · simp [canAttempt, status, RetryPolicy.isExhausted]
      · simp [isTerminal, status, RetryPolicy.isExhausted]
    | processing =>
      constructor
      · simp [canAttempt, status]
      · simp [isTerminal, status]
    | successful =>
      constructor
      · simp [canAttempt, status]
      · simp [isTerminal, status]

end DeliveryRecord

/-- Anything may go wrong, but the limit on attempts of each subscription stays as it is. -/
def Conditions.capped (limit : Uuid → UInt32) : Conditions where
  storeFails := True
  queueFails := True
  breaksOff := True
  offers _ owner found := ∀ subscription, found = some subscription →
    subscription.maxAttempts = (limit owner).toNat
  passes _ _ := True
  passes_refl _ := trivial
  passes_trans _ _ _ _ _ := trivial

/-- What is held about a delivery came of calls within its limit, and requests count from one. -/
structure Dossier.Within (limit : Uuid → UInt32) (dossier : Dossier) : Prop where
  reachable : ∀ record, dossier.record = some record →
    record.ReachableWithin (limit record.subscriptionId).toNat
  numbered : ∀ sending ∈ dossier.sendings, 0 < sending.request.attempt

namespace Dossier.Within

variable {limit : Uuid → UInt32} {policy : RetryPolicy} {id : Uuid} {start dossier after : Dossier}
  {since : Instant} {site turned : Site}

theorem of_same (within : dossier.Within limit) (same : after.record = dossier.record)
    (sendings : after.sendings = dossier.sendings) : after.Within limit where
  reachable record found := within.reachable record (same ▸ found)
  numbered sending member := within.numbered sending (sendings ▸ member)

private theorem numbered_of_turn {effect : Effect} {reply : effect.Reply}
    (within : (site.dossier id).Within limit) (filed : start.Filed id)
    (doing : Doing (.capped limit) policy id start since effect (site.dossier id))
    (turn : (Conditions.capped limit).Turn effect site reply turned) :
    ∀ sending ∈ (turned.dossier id).sendings, 0 < sending.request.attempt := by
  by_cases sends : ∃ request, effect = .send request
  · obtain ⟨request, rfl⟩ := sends
    generalize held : site.dossier id = dossier at doing
    cases doing with
    | quiet stage silent => exact absurd rfl (silent request.deliveryId)
    | @send record begun subscription begins body signature now =>
      have sent := (Conditions.turn_send turn id).trans (if_pos (begins.named filed))
      rw [sent]
      intro sending member
      rcases List.mem_append.mp member with earlier | last
      · exact within.numbered sending earlier
      · rw [List.mem_singleton.mp last]
        have stored : (site.dossier id).record = some begun := by rw [held]; rfl
        have coherent := (within.reachable begun stored).coherent
        have none_begun : begun.attempts ≠ 0 := by
          intro blank
          cases begins.inFlight.symm.trans (coherent.pending.mpr blank)
        exact Nat.pos_of_ne_zero none_begun
  · rw [Conditions.turn_sendings_eq turn fun request same => sends ⟨request, same⟩]
    exact within.numbered

/-- However an effect of work on the delivery turns out, limits are kept. -/
theorem turn {effect : Effect} {reply : effect.Reply} (within : (site.dossier id).Within limit)
    (filed : start.Filed id)
    (doing : Doing (.capped limit) policy id start since effect (site.dossier id))
    (turn : (Conditions.capped limit).Turn effect site reply turned) :
    (turned.dossier id).Within limit := by
  refine ⟨fun held found => ?_, numbered_of_turn within filed doing turn⟩
  have capped (record : DeliveryRecord) (subscription : Subscription) (_ : record.id = id)
      (offered : (Conditions.capped limit).offers record.id record.subscriptionId
        (some subscription)) :
      subscription.maxAttempts = (limit record.subscriptionId).toNat := offered subscription rfl
  rcases doing.record_cases limit filed capped turn with
    same | ⟨record, next, call, stored, limited, granted, saved⟩
  · exact within.reachable held (same ▸ found)
  · cases saved.symm.trans found
    have reachable := within.reachable record stored
    rw [(reachable.coherent.steps_of_ok granted).same.subscriptionId]
    exact reachable.answered limited granted

end Dossier.Within

namespace Switchboard

/-- What can happen next where deliveries are enqueued and claimed too. An enqueue has no other work on
deliveries between its operations; it and calls of the queue leave alone the deliveries that calls are
at work on. -/
inductive Traffic (conditions : Conditions) (policy : RetryPolicy) :
    Switchboard → Switchboard → Prop where
  | work {board after : Switchboard} (step : Step conditions policy board after) :
      Traffic conditions policy board after
  | enqueue {site after : Site}
      {calls : Uuid → Option (Program Relay (Except DeliveryError Outcome))}
      {subscription : Subscription} {eventType : String} {payload : Json.Value}
      {result : Option (Except DeliveryError Uuid)}
      (run : (Dispatch.enqueue subscription eventType payload).result.Runs conditions.alone
        site result after)
      (apart : ∀ id, calls id ≠ none → after.dossier id = site.dossier id) :
      Traffic conditions policy ⟨site, calls⟩ ⟨after, calls⟩
  | queue {site after : Site}
      {calls : Uuid → Option (Program Relay (Except DeliveryError Outcome))} {call : QueueCall}
      {reply : Except DeliveryError call.Reply}
      (turn : conditions.Turn (.queue call) site reply after)
      (apart : ∀ id, calls id ≠ none → after.dossier id = site.dossier id) :
      Traffic conditions policy ⟨site, calls⟩ ⟨after, calls⟩

variable {conditions : Conditions} {policy : RetryPolicy} {board after : Switchboard}
  {site turned : Site} {id : Uuid}

/-- What an enqueue makes of a delivery, also one that is broken off: nothing, or a new record. -/
inductive Admits (id : Uuid) (start : Dossier) : Dossier → Prop where
  | untouched : Admits id start start
  | created {owner : Uuid} {eventType : String} {payload : Json.Value} {now : Instant}
      {dossier : Dossier} (fresh : start.record = none)
      (record : dossier.record = some (.pending id owner eventType payload now))
      (sendings : dossier.sendings = start.sendings) : Admits id start dossier

private theorem admits_of_creates {new : Uuid} {record : DeliveryRecord}
    (creates : site.Creates new record turned) (id : Uuid) :
    Admits id (site.dossier id) (turned.dossier id) := by
  by_cases mine : id = new
  · subst mine
    obtain ⟨owner, eventType, payload, now, rfl⟩ := creates.pending
    rw [creates.created]
    exact .created creates.fresh rfl rfl
  · rw [creates.others id mine]
    exact .untouched

theorem admits_of_enqueue {subscription : Subscription} {eventType : String} {payload : Json.Value}
    {result : Option (Except DeliveryError Uuid)} (orderly : site.Orderly conditions)
    (run : (Dispatch.enqueue subscription eventType payload).result.Runs conditions.alone
      site result turned) :
    conditions.Meets turned ∧ ∀ id, Admits id (site.dossier id) (turned.dossier id) := by
  have ended := run.heeded (Dispatch.enqueue_heeds subscription eventType payload orderly)
  cases result with
  | none =>
    obtain ⟨effect, kept, passed, untouched | ⟨new, record, creates⟩⟩ := ended
    · exact ⟨kept.meets, fun id => untouched id ▸ .untouched⟩
    · exact ⟨kept.meets, admits_of_creates creates⟩
  | some result =>
    obtain ⟨kept, passed, enqueues⟩ := ended
    refine ⟨kept.meets, fun id => ?_⟩
    cases enqueues.dossier id with
    | untouched same unaccepted =>
      rw [same]
      exact .untouched
    | stranded fresh created unaccepted =>
      rw [created]
      exact .created fresh rfl rfl
    | accepted fresh scheduled =>
      rw [scheduled]
      exact .created fresh rfl rfl

variable {limit : Uuid → UInt32}

/-- What holds at every moment under limits that stay: calls are sound, and nothing exceeds them. -/
structure Frugal (limit : Uuid → UInt32) (policy : RetryPolicy) (board : Switchboard) : Prop where
  sound : board.Sound (.capped limit) policy
  within : ∀ id, (board.site.dossier id).Within limit

private theorem capped_bounded (id owner : Uuid) (subscription : Subscription)
    (offered : (Conditions.capped limit).offers id owner (some subscription)) :
    subscription.maxAttempts ≤ DeliveryRecord.greatestAttempts := by
  rw [offered subscription rfl]
  exact (RecordCall.begin (limit owner)).limit_le

private theorem Admits.ledger {start dossier : Dossier} (admits : Admits id start dossier)
    (ledger : Ledger id start) : Ledger id dossier := by
  cases admits with
  | untouched => exact ledger
  | created fresh record sendings =>
    refine .unsent (fun held found => ?_) (fun held found => ?_) ?_
    · cases record.symm.trans found
      rfl
    · cases record.symm.trans found
      exact Nat.zero_le _
    · rw [sendings]
      -- A request that had been sent would have a record.
      refine List.eq_nil_iff_forall_not_mem.mpr fun sending member => ?_
      obtain ⟨held, found, _⟩ := ledger.reached sending member
      cases fresh.symm.trans found

private theorem Admits.within {start dossier : Dossier} (admits : Admits id start dossier)
    (within : start.Within limit) : dossier.Within limit := by
  cases admits with
  | untouched => exact within
  | created fresh record sendings =>
    refine ⟨fun held found => ?_, sendings ▸ within.numbered⟩
    cases record.symm.trans found
    exact .of_pending ..

theorem Frugal.step (frugal : Frugal limit policy board)
    (step : Step (.capped limit) policy board after) : Frugal limit policy after := by
  refine ⟨(frugal.sound.step capped_bounded step).1, fun id => ?_⟩
  cases step with
  | outside same passed meets =>
    rw [same id]
    exact frugal.within id
  | call free => exact frugal.within id
  | @effect site turned calls own effect reply next busy turn meets =>
    obtain ⟨start, since, began, works⟩ := frugal.sound.works own _ busy
    have doing := (works site (((Conditions.capped limit).around (· = own)).drift_refl site)).1
    by_cases mine : id = own
    · subst mine
      exact (frugal.within id).turn began.filed doing turn
    · rw [Conditions.turn_dossier_eq turn (doing.apart began.filed mine)]
      exact frugal.within id
  | leave => exact frugal.within id

private theorem sound_of_apart {calls : Uuid → Option (Program Relay (Except DeliveryError Outcome))}
    (sound : Sound (.capped limit) policy ⟨site, calls⟩) (meets : (Conditions.capped limit).Meets turned)
    (ledger : ∀ id, Ledger id (turned.dossier id))
    (apart : ∀ id, calls id ≠ none → turned.dossier id = site.dossier id) :
    Sound (.capped limit) policy ⟨turned, calls⟩ := by
  refine ⟨meets, ledger, fun id call busy => ?_⟩
  obtain ⟨start, since, began, works⟩ := sound.works id call busy
  have same := apart id (Option.ne_none_iff_exists'.mpr ⟨call, busy⟩)
  exact ⟨start, since, began, works_drift works same trivial fun _ => meets⟩

theorem Frugal.traffic (frugal : Frugal limit policy board)
    (traffic : Traffic (.capped limit) policy board after) : Frugal limit policy after := by
  obtain ⟨sound, within⟩ := frugal
  cases traffic with
  | work step => exact Frugal.step ⟨sound, within⟩ step
  | @enqueue site turned calls subscription eventType payload result run apart =>
    obtain ⟨meets, admits⟩ := admits_of_enqueue
      ⟨sound.meets, fun id => (sound.ledger id).filed⟩ run
    have ledger (id : Uuid) : Ledger id (turned.dossier id) := (admits id).ledger (sound.ledger id)
    exact ⟨sound_of_apart sound meets ledger apart, fun id => (admits id).within (within id)⟩
  | @queue site turned calls call reply turn apart =>
    have kept (id : Uuid) : (turned.dossier id).record = (site.dossier id).record ∧
        (turned.dossier id).sendings = (site.dossier id).sendings := by
      rcases turn with ⟨queue, _, _, rfl⟩ | ⟨_, _, rfl⟩
      · exact ⟨rfl, rfl⟩
      · exact ⟨rfl, rfl⟩
    have meets : (Conditions.capped limit).Meets turned := by
      rcases turn with ⟨queue, _, _, rfl⟩ | ⟨_, _, rfl⟩
      · exact sound.meets
      · exact sound.meets
    have ledger (id : Uuid) : Ledger id (turned.dossier id) :=
      (sound.ledger id).of_same (kept id).1 (kept id).2
    exact ⟨sound_of_apart sound meets ledger apart,
      fun id => (within id).of_same (kept id).1 (kept id).2⟩

theorem Frugal.run (frugal : Frugal limit policy board)
    (run : Relation.ReflTransGen (Traffic (.capped limit) policy) board after) :
    Frugal limit policy after := by
  induction run with
  | refl => exact frugal
  | tail earlier traffic ih => exact ih.traffic traffic

private theorem length_le_of_increasing {numbers : List Nat} {most : Nat}
    (increasing : numbers.Pairwise (· < ·)) (positive : ∀ number ∈ numbers, 0 < number)
    (bounded : ∀ number ∈ numbers, number ≤ most) : numbers.length ≤ most := by
  have distinct : numbers.Nodup := increasing.imp Nat.ne_of_lt
  have among : numbers ⊆ List.range' 1 most := fun number member =>
    List.mem_range'_1.mpr ⟨positive number member, by have := bounded number member; omega⟩
  have shorter := (List.subperm_of_subset distinct among).length_le
  rwa [List.length_range'] at shorter

/-- Each request of a delivery has an attempt of its own, of those its limit leaves room for. -/
theorem Frugal.sendings_le {record : DeliveryRecord} (frugal : Frugal limit policy board)
    (stored : (board.site.dossier id).record = some record) :
    (board.site.dossier id).sendings.length ≤ max 1 (limit record.subscriptionId).toNat := by
  have ledger := frugal.sound.ledger id
  have within := frugal.within id
  have numbered : (board.site.dossier id).sendings.length ≤ record.attempts := by
    rw [← List.length_map fun sending : Sending => sending.request.attempt]
    apply length_le_of_increasing ledger.increasing
    · intro number member
      obtain ⟨sending, sent, rfl⟩ := List.mem_map.mp member
      exact within.numbered sending sent
    · intro number member
      obtain ⟨sending, sent, rfl⟩ := List.mem_map.mp member
      obtain ⟨held, found, _, reached⟩ := ledger.reached sending sent
      cases stored.symm.trans found
      exact reached
  exact Nat.le_trans numbered (within.reachable record stored).attempts_le

/-- No delivery that may be attempted so many times has more requests than the bound, however a run
goes that starts where nothing has been sent and records have come about within their limits. -/
def SendsAtMost (most : UInt32) (bound : Nat) : Prop :=
  ∀ (limit : Uuid → UInt32) (policy : RetryPolicy) (site : Site) (board : Switchboard),
    site.Unsent → (Conditions.capped limit).Meets site →
    (∀ id record, site.store.deliveries.find? id = some record →
      record.ReachableWithin (limit record.subscriptionId).toNat) →
    Relation.ReflTransGen (Traffic (.capped limit) policy) (idle site) board →
    ∀ id record, board.site.store.deliveries.find? id = some record →
      limit record.subscriptionId = most →
      (board.site.sendings.filter fun sending => sending.request.deliveryId = id).length ≤ bound

theorem sendsAtMost (most : UInt32) : SendsAtMost most (max 1 most.toNat) := by
  intro limit policy site board unsent meets reachable run id record stored limited
  have start : Frugal limit policy (idle site) := by
    refine ⟨⟨meets, fun id => ?_, fun id call busy => by cases busy⟩, fun id => ⟨reachable id, ?_⟩⟩
    · refine .unsent (unsent.keyed id) (unsent.counted id) ?_
      simp [idle, Site.dossier, unsent.sendings]
    · simp [idle, Site.dossier, unsent.sendings]
  have held : (board.site.dossier id).record = some record := stored
  have sent := (start.run run).sendings_le held
  rwa [limited] at sent

/-- A subscription that leaves no attempts to its deliveries. -/
private def closedHanded : Subscription := { Subscription.ofOrders with maxAttempts := 0 }

private def spares : Site → Bool :=
  Site.findsOnly fun subscription => subscription.maxAttempts = 0

private theorem meets_of_spares (site : Site) (spared : spares site = true) :
    (Conditions.capped fun _ => 0).Meets site :=
  Site.meets_of_findsOnly (fun _ _ _ passed subscription same =>
    of_decide_eq_true (passed subscription same)) spared

private def obliging : Nat → Except DeliveryError DeliveryResponse := fun _ => .ok ⟨200, ""⟩

/-- What is left when such a subscription's delivery has been enqueued. -/
private def ordered : Site :=
  ((Dispatch.enqueue closedHanded "order.created" .null).result.run (Site.serve obliging spares)
    (Site.opened closedHanded)).2

/-- What one call for it leaves. -/
private def tried : Site :=
  ((Dispatch.process .standard ⟨0⟩).result.run (Site.serve obliging spares) ordered).2

private theorem tried_of_opened : Relation.ReflTransGen (Traffic (.capped fun _ => 0) .standard)
    (idle (Site.opened closedHanded)) (idle tried) := by
  have orders : (Dispatch.enqueue closedHanded "order.created" .null).result.Runs
      (Conditions.capped fun _ => 0).alone (Site.opened closedHanded) _ ordered :=
    Site.runs_serve obliging spares meets_of_spares fun _ => trivial
  have enqueued : Traffic (.capped fun _ => 0) .standard (idle (Site.opened closedHanded))
      (idle ordered) := .enqueue orders fun id busy => absurd rfl busy
  have worked : Relation.ReflTransGen (Step (.capped fun _ => 0) .standard) (idle ordered)
      (idle tried) := idle_reaches obliging spares meets_of_spares ⟨0⟩ ordered
  exact .head enqueued (worked.lift id fun _ _ => .work)

/-- Without any attempts allowed, a delivery that is enqueued and worked on once is sent once. -/
theorem not_sendsAtMost_none : ¬SendsAtMost 0 0 := by
  intro none_sent
  have empty (id : Uuid) : (Site.opened closedHanded).store.deliveries.find? id = none := rfl
  have unsent : (Site.opened closedHanded).Unsent := by
    refine ⟨rfl, fun id record found => ?_, fun id record found => ?_⟩
    · cases (empty id).symm.trans found
    · cases (empty id).symm.trans found
  have reachable (id : Uuid) (record : DeliveryRecord)
      (found : (Site.opened closedHanded).store.deliveries.find? id = some record) :
      record.ReachableWithin (0 : UInt32).toNat := by
    cases (empty id).symm.trans found
  have stored : (tried.store.deliveries.find? ⟨0⟩).isSome = true := by decide +kernel
  have sent : (tried.sendings.filter fun sending => sending.request.deliveryId = ⟨0⟩).length = 1 := by
    decide +kernel
  obtain ⟨record, found⟩ := Option.isSome_iff_exists.mp stored
  have silent := none_sent (fun _ => 0) .standard _ _ unsent
    (meets_of_spares _ (by decide +kernel)) reachable tried_of_opened ⟨0⟩ record found rfl
  exact Nat.not_succ_le_zero 0 (Nat.le_trans (Nat.le_of_eq sent.symm) silent)

/-- Records agree with the retry schedule on how many attempts may be made, and requests stay within
that, exactly if any may be made at all: a record of which none has begun allows one all the same. -/
theorem budget_unless_none (most : UInt32) :
    (∀ greatest record, DeliveryRecord.ReachableWithin greatest record →
      (record.AgreesOn most.toNat ↔ ¬(record.status = .pending ∧ most = 0))) ∧
    SendsAtMost most (max 1 most.toNat) ∧
    (SendsAtMost most most.toNat ↔ most ≠ 0) := by
  refine ⟨fun greatest record reachable => ?_, sendsAtMost most, ?_, fun some_allowed => ?_⟩
  · rw [reachable.coherent.agreesOn_iff, ← UInt32.toNat_inj]
    rfl
  · rintro none_sent rfl
    exact not_sendsAtMost_none none_sent
  · have allowed : 1 ≤ most.toNat := by
      refine Nat.one_le_iff_ne_zero.mpr fun none_allowed => some_allowed ?_
      exact UInt32.toNat_inj.mp none_allowed
    have sent := sendsAtMost most
    rwa [Nat.max_eq_right allowed] at sent

theorem budget_of_none :
    (∃ record, DeliveryRecord.ReachableWithin 0 record ∧ ¬record.AgreesOn 0) ∧ ¬SendsAtMost 0 0 := by
  obtain ⟨agrees, _, sends⟩ := budget_unless_none 0
  have reachable := DeliveryRecord.ReachableWithin.of_pending 0 ⟨0⟩ ⟨1⟩ "order.created" .null ⟨0⟩
  refine ⟨⟨_, reachable, fun agreed => ?_⟩, fun kept => sends.mp kept rfl⟩
  exact (agrees 0 _ reachable).mp agreed ⟨rfl, rfl⟩

end Switchboard

end HookRelay
