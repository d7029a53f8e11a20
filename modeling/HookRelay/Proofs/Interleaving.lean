import HookRelay.Proofs.Serving
import HookRelay.Proofs.WriteAhead

namespace HookRelay

structure Switchboard where
  site : Site
  calls : Uuid → Option (Program Relay (Except DeliveryError Outcome))

namespace Switchboard

def idle (site : Site) : Switchboard := ⟨site, fun _ => none⟩

def put (calls : Uuid → Option (Program Relay (Except DeliveryError Outcome))) (id : Uuid)
    (call : Option (Program Relay (Except DeliveryError Outcome))) :
    Uuid → Option (Program Relay (Except DeliveryError Outcome)) :=
  fun other => if other = id then call else calls other

/-- What can happen next: something else than deliveries changes, a call comes in for a delivery that
nobody is at work on, a call does what it does next, or a call is over or broken off. -/
inductive Step (conditions : Conditions) (policy : RetryPolicy) :
    Switchboard → Switchboard → Prop where
  | outside {site after : Site} {calls : Uuid → Option (Program Relay (Except DeliveryError Outcome))}
      (same : ∀ id, after.dossier id = site.dossier id)
      (passed : conditions.passes site.time after.time)
      (meets : conditions.Meets site → conditions.Meets after) :
      Step conditions policy ⟨site, calls⟩ ⟨after, calls⟩
  | call {site : Site} {calls : Uuid → Option (Program Relay (Except DeliveryError Outcome))}
      {id : Uuid} (free : calls id = none) :
      Step conditions policy ⟨site, calls⟩
        ⟨site, put calls id (some (Dispatch.process policy id).result)⟩
  | effect {site after : Site} {calls : Uuid → Option (Program Relay (Except DeliveryError Outcome))}
      {id : Uuid} {effect : Effect} {reply : effect.Reply}
      {next : effect.Reply → Program Relay (Except DeliveryError Outcome)}
      (busy : calls id = some (.step effect next)) (turn : conditions.Turn effect site reply after)
      (meets : conditions.Meets site → conditions.Meets after) :
      Step conditions policy ⟨site, calls⟩ ⟨after, put calls id (some (next reply))⟩
  | leave {site : Site} {calls : Uuid → Option (Program Relay (Except DeliveryError Outcome))}
      {id : Uuid} : Step conditions policy ⟨site, calls⟩ ⟨site, put calls id none⟩

/-- What holds at every moment: all ledgers are kept, and each call is work on its delivery that
began with a ledger kept. -/
structure Sound (conditions : Conditions) (policy : RetryPolicy) (board : Switchboard) : Prop where
  meets : conditions.Meets board.site
  ledger : ∀ id, Ledger id (board.site.dossier id)
  works : ∀ id call, board.calls id = some call → ∃ start since, Ledger id start ∧
    Dispatch.Works conditions policy (· = id) id start since call board.site

variable {conditions : Conditions} {policy : RetryPolicy} {board after : Switchboard}

/-- Work on a delivery does not mind what happens apart from it. -/
theorem works_drift {id : Uuid} {start : Dossier} {since : Instant} {site turned : Site}
    {call : Program Relay (Except DeliveryError Outcome)}
    (works : Dispatch.Works conditions policy (· = id) id start since call site)
    (same : turned.dossier id = site.dossier id)
    (passed : conditions.passes site.time turned.time)
    (meets : conditions.Meets site → conditions.Meets turned) :
    Dispatch.Works conditions policy (· = id) id start since call turned := by
  refine Program.Heeds.drift works ?_ ⟨fun other mine => by rw [mine]; exact same, passed, meets⟩
  intro result state later ⟨unchanged, _, _⟩ concluded
  rw [unchanged id rfl]
  exact concluded

theorem Sound.step (bounded : ∀ id owner subscription, conditions.offers id owner (some subscription) →
      subscription.maxAttempts ≤ DeliveryRecord.greatestAttempts)
    (sound : board.Sound conditions policy) (step : Step conditions policy board after) :
    after.Sound conditions policy ∧
      ∀ id, Onward (board.site.dossier id) (after.site.dossier id) := by
  cases step with
  | outside same passed meets =>
    refine ⟨⟨meets sound.meets, fun id => ?_, fun id call busy => ?_⟩, fun id => ?_⟩
    · exact (same id).symm ▸ sound.ledger id
    · obtain ⟨start, since, began, works⟩ := sound.works id call busy
      exact ⟨start, since, began, works_drift works (same id) passed meets⟩
    · rw [same id]
      exact .of_same rfl rfl
  | @call site calls id free =>
    refine ⟨⟨sound.meets, sound.ledger, fun other call busy => ?_⟩, fun id => .of_same rfl rfl⟩
    by_cases mine : other = id
    · subst mine
      simp only [put, if_true, Option.some.injEq] at busy
      subst busy
      exact ⟨_, _, sound.ledger other, Dispatch.process_works rfl (sound.ledger other).filed
        ⟨rfl, conditions.passes_refl _, sound.meets⟩⟩
    · simp only [put, if_neg mine] at busy
      exact sound.works other call busy
  | @effect site turned calls id effect reply next busy turn meets =>
    obtain ⟨start, since, began, works⟩ := sound.works id _ busy
    obtain ⟨doing, follows⟩ := works site ((conditions.around (· = id)).drift_refl site)
    have kept := began.kept bounded (sound.ledger id) doing turn
    have apart : ∀ other, other ≠ id → turned.dossier other = site.dossier other :=
      fun other different => Conditions.turn_dossier_eq turn (doing.apart began.filed different)
    refine ⟨⟨meets sound.meets, fun other => ?_, fun other call found => ?_⟩, fun other => ?_⟩
    · by_cases mine : other = id
      · exact mine ▸ kept.1
      · exact (apart other mine).symm ▸ sound.ledger other
    · by_cases mine : other = id
      · subst mine
        simp only [put, if_true, Option.some.injEq] at found
        subst found
        exact ⟨start, since, began, follows reply turned ⟨turn, meets⟩⟩
      · simp only [put, if_neg mine] at found
        obtain ⟨start, since, began, works⟩ := sound.works other call found
        refine ⟨start, since, began, works_drift works (apart other mine) ?_ meets⟩
        rw [Conditions.turn_time turn]
        exact conditions.passes_refl _
    · by_cases mine : other = id
      · exact mine ▸ kept.2
      · rw [apart other mine]
        exact .of_same rfl rfl
  | @leave site calls id =>
    refine ⟨⟨sound.meets, sound.ledger, fun other call busy => ?_⟩, fun id => .of_same rfl rfl⟩
    by_cases mine : other = id
    · simp [put, mine] at busy
    · simp only [put, if_neg mine] at busy
      exact sound.works other call busy

theorem Sound.run (bounded : ∀ id owner subscription, conditions.offers id owner (some subscription) →
      subscription.maxAttempts ≤ DeliveryRecord.greatestAttempts)
    (sound : board.Sound conditions policy)
    (run : Relation.ReflTransGen (Step conditions policy) board after) :
    after.Sound conditions policy ∧
      ∀ id, Onward (board.site.dossier id) (after.site.dossier id) := by
  induction run with
  | refl => exact ⟨sound, fun id => .of_same rfl rfl⟩
  | tail earlier step ih =>
    obtain ⟨sound, onward⟩ := ih
    obtain ⟨kept, further⟩ := sound.step bounded step
    exact ⟨kept, fun id => (onward id).trans (further id)⟩

end Switchboard

/-- Anything may go wrong and time may go either way; limits on attempts fit in thirty-two bits. -/
def Conditions.wild : Conditions where
  storeFails := True
  queueFails := True
  breaksOff := True
  offers _ _ found := ∀ subscription, found = some subscription →
    subscription.maxAttempts ≤ DeliveryRecord.greatestAttempts
  passes _ _ := True
  passes_refl _ := trivial
  passes_trans _ _ _ _ _ := trivial

/-- Attempts go ahead of requests, up to one moment and from there to a later one. -/
structure WriteAhead (middle last : Site) : Prop where
  recorded : ∀ sending ∈ middle.sendings, ∃ record, sending.stored = some record ∧
    record.id = sending.request.deliveryId ∧ record.status = .processing ∧
    record.attempts = sending.request.attempt
  increasing : ∀ id, ((middle.sendings.filter fun sending => sending.request.deliveryId = id).map
    fun sending => sending.request.attempt).Pairwise (· < ·)
  grows : ∀ id record, middle.store.deliveries.find? id = some record →
    ∃ later, last.store.deliveries.find? id = some later ∧ record.attempts ≤ later.attempts
  final : ∀ id record, middle.store.deliveries.find? id = some record →
    record.status = .successful → last.store.deliveries.find? id = some record ∧
      last.sendings.filter (fun sending => sending.request.deliveryId = id) =
        middle.sendings.filter fun sending => sending.request.deliveryId = id

/-- What a site holds before any request is sent: records under their own ids, counted in thirty-two
bits. -/
structure Site.Unsent (site : Site) : Prop where
  sendings : site.sendings = []
  keyed : ∀ id record, site.store.deliveries.find? id = some record → record.id = id
  counted : ∀ id record, site.store.deliveries.find? id = some record →
    record.attempts ≤ DeliveryRecord.greatestAttempts

theorem Switchboard.writeAhead {policy : RetryPolicy} {site : Site} {middle last : Switchboard}
    (unsent : site.Unsent) (meets : Conditions.wild.Meets site)
    (early : Relation.ReflTransGen (Step .wild policy) (idle site) middle)
    (late : Relation.ReflTransGen (Step .wild policy) middle last) :
    WriteAhead middle.site last.site := by
  have bounded : ∀ id owner subscription, Conditions.wild.offers id owner (some subscription) →
      subscription.maxAttempts ≤ DeliveryRecord.greatestAttempts :=
    fun id owner subscription offered => offered subscription rfl
  have start : (idle site).Sound .wild policy := by
    refine ⟨meets, fun id => ?_, fun id call busy => by cases busy⟩
    refine .unsent (unsent.keyed id) (unsent.counted id) ?_
    simp [idle, Site.dossier, unsent.sendings]
  obtain ⟨sound, _⟩ := start.run bounded early
  obtain ⟨_, onward⟩ := sound.run bounded late
  constructor
  · intro sending member
    have own : sending ∈ (middle.site.dossier sending.request.deliveryId).sendings :=
      List.mem_filter.mpr ⟨member, decide_eq_true rfl⟩
    exact (sound.ledger _).recorded sending own
  · exact fun id => (sound.ledger id).increasing
  · exact fun id => (onward id).grows
  · exact fun id => (onward id).final

namespace Switchboard

private theorem put_put (calls : Uuid → Option (Program Relay (Except DeliveryError Outcome)))
    (id : Uuid) (first second : Option (Program Relay (Except DeliveryError Outcome))) :
    put (put calls id first) id second = put calls id second := by
  funext other
  by_cases mine : other = id
  · simp [put, mine]
  · simp [put, mine]

variable {conditions : Conditions} {policy : RetryPolicy}

private theorem reaches_of_serve (answers : Nat → Except DeliveryError DeliveryResponse)
    (check : Site → Bool) (meets : ∀ site, check site = true → conditions.Meets site)
    (calls : Uuid → Option (Program Relay (Except DeliveryError Outcome))) (id : Uuid)
    (call : Program Relay (Except DeliveryError Outcome)) (site : Site) :
    ∃ rest, Relation.ReflTransGen (Step conditions policy) ⟨site, put calls id (some call)⟩
      ⟨(call.run (Site.serve answers check) site).2, put calls id (some rest)⟩ := by
  induction call generalizing site with
  | done result => exact ⟨.done result, .refl⟩
  | step effect next ih =>
    simp only [Program.run]
    split
    · rename_i reply after served
      obtain ⟨turn, met⟩ := Site.turn_of_serve meets served
      obtain ⟨rest, reached⟩ := ih reply after
      have step : Step conditions policy ⟨site, put calls id (some (.step effect next))⟩
          ⟨after, put (put calls id _) id (some (next reply))⟩ :=
        .effect (by simp [put]) turn fun _ => met
      rw [put_put] at step
      exact ⟨rest, .head step reached⟩
    · rename_i after silent
      cases Site.eq_of_serve_none silent
      exact ⟨.step effect next, .refl⟩

theorem idle_reaches (answers : Nat → Except DeliveryError DeliveryResponse)
    (check : Site → Bool) (meets : ∀ site, check site = true → conditions.Meets site) (id : Uuid)
    (site : Site) : Relation.ReflTransGen (Step conditions policy) (idle site)
      (idle ((Dispatch.process policy id).result.run (Site.serve answers check) site).2) := by
  obtain ⟨rest, reached⟩ := reaches_of_serve answers check meets (fun _ => none) id
    (Dispatch.process policy id).result site
  have left (met : Site) : Step conditions policy ⟨met, put (fun _ => none) id (some rest)⟩
      (idle met) := by
    have left : Step conditions policy ⟨met, put (fun _ => none) id (some rest)⟩
        ⟨met, put (put (fun _ => none) id (some rest)) id none⟩ := .leave
    have cleared : put (put (fun _ => none) id (some rest)) id none = fun _ => none := by
      rw [put_put]
      funext other
      simp [put]
    rwa [cleared] at left
  exact .tail (.head (.call rfl) reached) (left _)

end Switchboard

def Site.fitting : Site → Bool :=
  findsOnly fun subscription => subscription.maxAttempts ≤ DeliveryRecord.greatestAttempts

theorem Site.meets_of_fitting (site : Site) (fits : site.fitting = true) :
    Conditions.wild.Meets site :=
  meets_of_findsOnly (fun _ _ _ passed subscription same =>
    of_decide_eq_true (passed subscription same)) fits

private def accepting : Nat → Except DeliveryError DeliveryResponse := fun _ => .ok ⟨200, ""⟩

/-- What one call leaves when it may save so many records in all. -/
private def attended (saves : Nat) (site : Site) : Site :=
  ((Dispatch.process .standard ⟨0⟩).result.run (Site.serve accepting fun site =>
    site.fitting && site.saves.length ≤ saves) site).2

theorem Switchboard.writeAhead_of_interrupted : ∃ middle last,
    Relation.ReflTransGen (Step .wild .standard) (idle (.untried .ofOrders .null)) middle ∧
      Relation.ReflTransGen (Step .wild .standard) middle last ∧
      last.site.sendings.map (fun sending => sending.request.attempt) = [1, 2] ∧
      WriteAhead middle.site last.site := by
  have call (saves : Nat) (site : Site) : Relation.ReflTransGen (Step .wild .standard) (idle site)
      (idle (attended saves site)) :=
    idle_reaches accepting _ (fun site checked =>
      site.meets_of_fitting (Bool.and_eq_true_iff.mp checked).1) ⟨0⟩ site
  have unsent : (Site.untried .ofOrders .null).Unsent := by
    refine ⟨rfl, fun id record found => ?_, fun id record found => ?_⟩
    · obtain ⟨rfl, rfl⟩ := Site.find?_untried found
      rfl
    · obtain ⟨rfl, rfl⟩ := Site.find?_untried found
      exact Nat.zero_le _
  have early := call 1 (.untried .ofOrders .null)
  have late := (call 9 (attended 1 (.untried .ofOrders .null))).trans (call 9 _)
  exact ⟨_, _, early, late, by decide +kernel,
    writeAhead unsent (Site.meets_of_fitting _ (by decide +kernel)) early late⟩

end HookRelay
