import HookRelay.Proofs.Dispatch.Work
import HookRelay.Proofs.Record.Rank
import HookRelay.Proofs.Record.Transition
import HookRelay.Proofs.Serving
import HookRelay.Proofs.Signature

/-!
Deliveries get done. Whatever receivers answer and whether or not a retry can be queued, a call of
`Dispatch.process` that no failure of the store disturbs takes its delivery further, and no call takes
it back; there is only so far to go.
-/
namespace HookRelay

open HookRelay.Action HookRelay.Attempt

/-- Deliveries of a subscription can be sent, with so many attempts for each. -/
structure Subscription.Sends (most : UInt32) (subscription : Subscription) : Prop where
  active : subscription.isActive = true
  usable : subscription.secret.isEmpty = false
  limited : subscription.maxAttempts = most.toNat

instance (most : UInt32) (subscription : Subscription) : Decidable (subscription.Sends most) :=
  decidable_of_iff (subscription.isActive = true ∧ subscription.secret.isEmpty = false ∧
      subscription.maxAttempts = most.toNat)
    ⟨fun ⟨active, usable, limited⟩ => ⟨active, usable, limited⟩,
      fun sends => ⟨sends.active, sends.usable, sends.limited⟩⟩

/-- One delivery can be sent all along. The queue may fail, and the store may where it is faulty. -/
def Conditions.tended (id : Uuid) (most : UInt32) (faulty : Prop) : Conditions where
  storeFails := faulty
  queueFails := True
  breaksOff := True
  offers delivery _ found := delivery = id →
    ∃ subscription, found = some subscription ∧ subscription.Sends most
  passes _ _ := True
  passes_refl _ := trivial
  passes_trans _ _ _ _ _ := trivial

/-- Whether an effect stops the program instead of coming to a reply. -/
def Effect.Stops : Effect → Site → Prop
  | .halt, _ => True
  | .store call, site => site.store.answer? call = none
  | _, _ => False

/-- A delivery that can be sent has come from one record to another, and to at least some rank. -/
structure Underway (id : Uuid) (most : UInt32) (first : DeliveryRecord) (least : Nat) (site : Site) :
    Prop where
  meets : (Conditions.tended id most True).Meets site
  stored : ∃ record, (site.dossier id).record = some record ∧
    DeliveryRecord.Furthers most.toNat first record ∧ least ≤ record.rank

namespace Underway

variable {policy : RetryPolicy} {id : Uuid} {most : UInt32} {faulty : Prop}
  {start dossier : Dossier} {since : Instant} {first record next : DeliveryRecord} {least : Nat}
  {call : RecordCall} {site after : Site}

theorem drift (underway : Underway id most first least site)
    (drift : ((Conditions.tended id most faulty).around (· = id)).drift site after) :
    Underway id most first least after where
  meets := drift.2.2 underway.meets
  stored := by
    rw [drift.1 id rfl]
    exact underway.stored

/-- However an effect of work on the delivery turns out, it takes the delivery no way back. -/
theorem turn {effect : Effect} {reply : effect.Reply} (underway : Underway id most first least site)
    (filed : start.Filed id)
    (doing : Doing (.tended id most faulty) policy id start since effect (site.dossier id))
    (turn : ((Conditions.tended id most faulty).around (· = id)).turn effect site reply after) :
    Underway id most first least after := by
  refine ⟨turn.2 underway.meets, ?_⟩
  have capped (record : DeliveryRecord) (subscription : Subscription) (named : record.id = id)
      (offered : (Conditions.tended id most faulty).offers record.id record.subscriptionId
        (some subscription)) : subscription.maxAttempts = most.toNat := by
    obtain ⟨found, same, sends⟩ := offered named
    cases same
    exact sends.limited
  obtain ⟨held, found, furthers, reached⟩ := underway.stored
  rcases doing.record_cases (fun _ => most) filed capped turn.1 with
    same | ⟨record, next, call, stored, limited, granted, saved⟩
  · exact ⟨held, same.trans found, furthers, reached⟩
  · cases stored.symm.trans found
    have further := DeliveryRecord.Furthers.of_granted furthers.reachable limited granted
    exact ⟨next, saved, furthers.trans further, Nat.le_trans reached further.ahead⟩

theorem of_stored (meets : (Conditions.tended id most True).Meets site)
    (stored : (site.dossier id).record = some record) (reachable : record.ReachableWithin most.toNat) :
    Underway id most record 0 site :=
  ⟨meets, record, stored, .refl reachable, Nat.zero_le _⟩

theorem of_found (underway : Underway id most first least site)
    (found : (site.dossier id).record = some record) :
    DeliveryRecord.Furthers most.toNat first record ∧ least ≤ record.rank := by
  obtain ⟨held, stored, furthers, reached⟩ := underway.stored
  cases stored.symm.trans found
  exact ⟨furthers, reached⟩

theorem filed (underway : Underway id most first least site) (named : first.id = id) :
    (site.dossier id).Filed id :=
  fun _ found => (underway.of_found found).1.same.id.trans named

theorem works (underway : Underway id most first least site) (named : first.id = id)
    (policy : RetryPolicy) (faulty : Prop) :
    Dispatch.Works (.tended id most faulty) policy (· = id) id (site.dossier id) site.time
      (Dispatch.process policy id).result site :=
  Dispatch.process_works rfl (underway.filed named) ⟨rfl, trivial, underway.meets⟩

/-- No call takes the delivery back, wherever it has come. -/
theorem of_comesTo (underway : Underway id most first least site) (named : first.id = id)
    {left : Program Relay (Except DeliveryError Outcome)}
    (comes : (Dispatch.process policy id).result.ComesTo
      ((Conditions.tended id most faulty).around (· = id)) site left after) :
    Underway id most first least after :=
  comes.keeps (underway.works named policy faulty) underway (fun _ _ drift kept => kept.drift drift)
    fun _ _ _ _ doing turn kept => kept.turn (underway.filed named) doing turn

end Underway

namespace Dispatch

variable {policy : RetryPolicy} {id : Uuid} {most : UInt32} {dossier : Dossier} {moment : Instant}
  {record next : DeliveryRecord} {call : RecordCall} {subscription : Subscription}
  {failure : DeliveryError} {site after : Site}

/-- Where the store does not fail, work takes a delivery further before it is over. -/
def Advances (id : Uuid) (most : UInt32) (record : DeliveryRecord)
    (program : Program Relay (Except DeliveryError Outcome)) (site : Site) : Prop :=
  program.Attains ((Conditions.tended id most False).around (· = id)) Effect.Stops
    (Underway id most record (record.rank + 1)) site

/-- Where work is on a delivery that can be sent and is not done with, before it has saved anything. -/
inductive Ahead (id : Uuid) (most : UInt32) (record : DeliveryRecord) : Point → Prop where
  | called : Ahead id most record (.called id)
  | loaded : Ahead id most record (.loaded record)
  | eligible {subscription : Subscription} {active : subscription.isActive = true}
      {able : record.canAttempt subscription.maxAttempts = true} (sends : subscription.Sends most) :
      Ahead id most record (.eligible subscription record active able)
  | begun {attempt : Begun} (same : attempt.record = record)
      (sends : attempt.subscription.Sends most) : Ahead id most record (.begun attempt)
  | refused {flight : Flight} (same : flight.record = record) : Ahead id most record (.refused flight)
  | failing {failure : Failure} (same : failure.record = record) :
      Ahead id most record (.failing failure)

/-- Work on a delivery is at a site where its record is still as it was. -/
structure Undone (id : Uuid) (most : UInt32) (record : DeliveryRecord) (point : Point) (site : Site) :
    Prop where
  meets : (Conditions.tended id most False).Meets site
  stored : (site.dossier id).record = some record
  ahead : Ahead id most record point

namespace Undone

variable {point next : Point} {effect : Effect} {reply : effect.Reply}

theorem drift (undone : Undone id most record point site)
    (drift : ((Conditions.tended id most False).around (· = id)).drift site after) :
    Undone id most record point after where
  meets := drift.2.2 undone.meets
  stored := by rw [drift.1 id rfl, undone.stored]
  ahead := undone.ahead

theorem goesOn (undone : Undone id most record point site) (does : point.does = some effect) :
    ¬effect.Stops site := by
  cases undone.ahead <;> cases does <;> exact nofun

/-- What transitions make of the record takes the delivery further once it is saved. -/
theorem saved {record next : DeliveryRecord} {call : RecordCall} {reply : Except StoreError Unit}
    (meets : (Conditions.tended id most False).Meets site) (named : record.id = id)
    (reachable : record.ReachableWithin most.toNat) (limited : call.limit ≤ most.toNat)
    (granted : call.answer record = .ok next)
    (turn : ((Conditions.tended id most False).around (· = id)).turn (.store (.saveDelivery next))
      site reply after) : Underway id most record (record.rank + 1) after := by
  have further := DeliveryRecord.Furthers.of_granted reachable limited granted
  rcases Conditions.turn_saveDelivery turn.1 with ⟨rfl, changed⟩ | ⟨⟨_, _, fault⟩, _⟩
  · refine ⟨turn.2 meets, next, ?_, further, reachable.coherent.rank_lt granted⟩
    rw [changed id, if_pos (further.same.id.trans named)]
    rfl
  · exact fault.elim

theorem quiet (undone : Undone id most record point site)
    (turn : ((Conditions.tended id most False).around (· = id)).turn effect site reply after)
    (silent : ∀ id, ¬effect.Concerns id) (ahead : Ahead id most record next) :
    Undone id most record next after where
  meets := turn.2 undone.meets
  stored :=
    (congrArg Dossier.record (Conditions.turn_dossier_eq turn.1 (silent id))).trans undone.stored
  ahead := ahead

/-- Every reply leads on, up to one that leaves the delivery further. -/
theorem turn (undone : Undone id most record point site) (named : record.id = id)
    (reachable : record.ReachableWithin most.toNat)
    (lasting : record.isTerminal most.toNat = false)
    (goes : Point.Goes policy point effect reply next)
    (turn : ((Conditions.tended id most False).around (· = id)).turn effect site reply after) :
    Underway id most record (record.rank + 1) after ∨ Undone id most record next after := by
  have stands : (Conditions.tended id most False).Stands id site.time (site.dossier id) site :=
    ⟨rfl, trivial, undone.meets⟩
  have offered (subscription : Subscription) (found : Option Subscription)
      (same : found = some subscription)
      (offered : (Conditions.tended id most False).offers record.id record.subscriptionId found) :
      subscription.Sends most := by
    obtain ⟨_, rfl, sends⟩ := offered named
    cases same
    exact sends
  cases goes with
  | unread error => exact (Conditions.storeFails_of_error turn.1).elim
  | missing =>
    cases undone.ahead
    cases (stands.found turn).symm.trans undone.stored
  | loads found =>
    cases undone.ahead
    cases (stands.found turn).symm.trans undone.stored
    exact .inr (undone.quiet turn nofun .loaded)
  | unowned error => exact (Conditions.storeFails_of_error turn.1).elim
  | orphaned =>
    cases undone.ahead
    obtain ⟨_, impossible, _⟩ := stands.offered undone.stored turn named
    cases impossible
  | interrupted subscription inFlight =>
    cases undone.ahead
    exact .inr (undone.quiet turn nofun (.refused rfl))
  | inactive subscription landed inactive =>
    cases undone.ahead
    have sends := offered _ _ rfl (stands.offered undone.stored turn)
    cases sends.active.symm.trans inactive
  | ineligible subscription landed active unable =>
    cases undone.ahead
    have sends := offered _ _ rfl (stands.offered undone.stored turn)
    have able := (record.canAttempt_iff most.toNat).mpr ⟨landed, lasting⟩
    rw [sends.limited] at unable
    cases able.symm.trans unable
  | admits subscription landed active able =>
    cases undone.ahead
    have sends := offered _ _ rfl (stands.offered undone.stored turn)
    exact .inr (undone.quiet turn nofun (.eligible sends))
  | unsigned prepared refused =>
    cases undone.ahead with
    | eligible sends => cases (Signature.signBytes_of_usable sends.usable _).symm.trans refused
  | begins prepared begins signed =>
    cases undone.ahead with
    | eligible sends => exact .inr (undone.quiet turn nofun (.begun rfl sends))
  | unbegun error => exact (Conditions.storeFails_of_error turn.1).elim
  | @readies attempt =>
    cases undone.ahead with
    | begun same sends =>
      have granted : (RecordCall.begin most).answer record = .ok attempt.begun := by
        rw [RecordCall.answer, ← same, ← sends.limited]
        exact attempt.begins
      exact .inl (saved undone.meets named reachable (Nat.le_refl _) granted turn)
  | @notices flight now failed fails =>
    cases undone.ahead with
    | refused same => exact .inr (undone.quiet turn nofun (.failing same))
  | unfailed error => exact (Conditions.storeFails_of_error turn.1).elim
  | @fails failure =>
    cases undone.ahead with
    | failing same =>
      have granted : (RecordCall.fail failure.failure.statusCode? (failureText failure.failure)
          failure.now).answer record = .ok failure.failed := same ▸ failure.fails
      exact .inl (saved undone.meets named reachable (Nat.zero_le _) granted turn)
  | _ => cases undone.ahead

end Undone

theorem process_advances (meets : (Conditions.tended id most False).Meets site)
    (stored : (site.dossier id).record = some record) (named : record.id = id)
    (reachable : record.ReachableWithin most.toNat)
    (lasting : record.isTerminal most.toNat = false) :
    Advances id most record (process policy id).result site := by
  have called : Undone id most record (.called id) site := ⟨meets, stored, .called⟩
  refine (governs_process policy id).attains called (fun _ _ _ drift undone => undone.drift drift)
    (fun _ _ _ does undone => undone.goesOn does) ?_ ?_
  · intro point effect reply next site after goes turn undone
    exact undone.turn named reachable lasting goes turn
  · intro result site undone
    cases undone.ahead

/-- What a call on a delivery may leave that can be sent, however it is disturbed and wherever it is
broken off. The call has the delivery to itself. -/
def Leaves (policy : RetryPolicy) (id : Uuid) (most : UInt32) (site after : Site) : Prop :=
  ∃ left, (process policy id).result.ComesTo ((Conditions.tended id most True).around (· = id))
    site left after

/-- What such a call leaves when it is over and no call of it to the store has failed. -/
def Completes (policy : RetryPolicy) (id : Uuid) (most : UInt32) (site after : Site) : Prop :=
  ∃ left, (process policy id).result.ComesTo ((Conditions.tended id most False).around (· = id))
      site left after ∧
    left.Over ((Conditions.tended id most False).around (· = id)) Effect.Stops after

theorem Leaves.underway {first : DeliveryRecord} {least : Nat}
    (leaves : Leaves policy id most site after) (underway : Underway id most first least site)
    (named : first.id = id) : Underway id most first least after := by
  obtain ⟨left, comes⟩ := leaves
  exact underway.of_comesTo named comes

theorem Completes.underway {first : DeliveryRecord} {least : Nat}
    (completes : Completes policy id most site after) (underway : Underway id most first least site)
    (named : first.id = id) : Underway id most first least after := by
  obtain ⟨left, comes, _⟩ := completes
  exact underway.of_comesTo named comes

theorem Completes.further (completes : Completes policy id most site after)
    (underway : Underway id most record 0 site) (stored : (site.dossier id).record = some record)
    (named : record.id = id) (lasting : record.isTerminal most.toNat = false) :
    Underway id most record (record.rank + 1) after := by
  obtain ⟨left, comes, finished⟩ := completes
  have reachable := (underway.of_found stored).1.reachable
  have attains : Advances id most record (process policy id).result site :=
    process_advances underway.meets stored named reachable lasting
  exact attains.of_over (underway.works named policy False) (fun _ _ drift kept => kept.drift drift)
    (fun _ _ _ _ doing turn kept => kept.turn (underway.filed named) doing turn) comes finished

end Dispatch

open Dispatch

/-- A delivery that can be sent is worked on, by one call after another, and so many of them are
completed. The others may be disturbed by anything; between calls, anything may happen that leaves
the delivery's record alone. -/
inductive Pursuit (policy : RetryPolicy) (id : Uuid) (most : UInt32) (first : Site) :
    Nat → Site → Prop where
  | start : Pursuit policy id most first 0 first
  | meanwhile {count : Nat} {site after : Site} (earlier : Pursuit policy id most first count site)
      (same : (after.dossier id).record = (site.dossier id).record)
      (meets : (Conditions.tended id most True).Meets after) :
      Pursuit policy id most first count after
  | call {count : Nat} {site after : Site} (earlier : Pursuit policy id most first count site)
      (leaves : Leaves policy id most site after) : Pursuit policy id most first count after
  | completed {count : Nat} {site after : Site} (earlier : Pursuit policy id most first count site)
      (completes : Completes policy id most site after) :
      Pursuit policy id most first (count + 1) after

variable {policy : RetryPolicy} {id : Uuid} {most : UInt32} {record : DeliveryRecord}
  {first after : Site}

/-- A delivery that is not done with yet has come further by one at least for each completed call. -/
theorem Pursuit.underway {count : Nat} (run : Pursuit policy id most first count after)
    (start : Underway id most record 0 first) (stored : (first.dossier id).record = some record)
    (named : record.id = id) :
    Underway id most record 0 after ∧ ∀ later, (after.dossier id).record = some later →
      later.isTerminal most.toNat = false → record.rank + count ≤ later.rank := by
  induction run with
  | start =>
    refine ⟨start, fun later found _ => ?_⟩
    cases stored.symm.trans found
    exact Nat.le_refl _
  | meanwhile earlier same meets ih =>
    obtain ⟨underway, counted⟩ := ih
    exact ⟨⟨meets, same ▸ underway.stored⟩, fun later found => counted later (same ▸ found)⟩
  | call earlier leaves ih =>
    obtain ⟨underway, counted⟩ := ih
    refine ⟨leaves.underway underway named, fun later found lasting => ?_⟩
    obtain ⟨held, kept, furthers, _⟩ := underway.stored
    have onward := leaves.underway (.of_stored underway.meets kept furthers.reachable)
      (furthers.same.id.trans named)
    have ahead := (onward.of_found found).1
    exact Nat.le_trans (counted held kept (ahead.lasting lasting)) ahead.ahead
  | completed earlier completes ih =>
    obtain ⟨underway, counted⟩ := ih
    refine ⟨completes.underway underway named, fun later found lasting => ?_⟩
    obtain ⟨held, kept, furthers, _⟩ := underway.stored
    have holds : Underway id most held 0 _ := .of_stored underway.meets kept furthers.reachable
    have named := furthers.same.id.trans named
    have before := ((completes.underway holds named).of_found found).1.lasting lasting
    have gained := ((completes.further holds kept named before).of_found found).2
    exact Nat.le_trans (Nat.succ_le_succ (counted held kept before)) gained

/-- Retries make progress and end: a completed call takes a delivery further that is not done with, any
other call leaves it no less far, and after as many completed calls as there is to go it is done with. -/
theorem retries_end (policy : RetryPolicy) (meets : (Conditions.tended id most True).Meets first)
    (stored : (first.dossier id).record = some record) (named : record.id = id)
    (reachable : record.ReachableWithin most.toNat) :
    record.rank ≤ 2 * max 1 most.toNat + 1 ∧
    (∀ after, Leaves policy id most first after → ∃ later,
      (after.dossier id).record = some later ∧ record.rank ≤ later.rank) ∧
    (record.isTerminal most.toNat = false →
      ∀ after, Completes policy id most first after → ∃ later,
        (after.dossier id).record = some later ∧ record.rank < later.rank) ∧
    ∀ count after, Pursuit policy id most first count after → ∃ later,
      (after.dossier id).record = some later ∧ later.ReachableWithin most.toNat ∧
        record.rank ≤ later.rank ∧ later.rank ≤ 2 * max 1 most.toNat + 1 ∧
        (later.isTerminal most.toNat = false → record.rank + count ≤ later.rank) ∧
        (2 * max 1 most.toNat + 1 ≤ count → later.isTerminal most.toNat = true) := by
  have start : Underway id most record 0 first := .of_stored meets stored reachable
  refine ⟨reachable.rank_le, fun after leaves => ?_, fun lasting after completes => ?_,
    fun count after run => ?_⟩
  · obtain ⟨later, found, furthers, _⟩ := (leaves.underway start named).stored
    exact ⟨later, found, furthers.ahead⟩
  · obtain ⟨later, found, _, gained⟩ := (completes.further start stored named lasting).stored
    exact ⟨later, found, gained⟩
  · obtain ⟨underway, counted⟩ := run.underway start stored named
    obtain ⟨later, found, furthers, _⟩ := underway.stored
    have counted := counted later found
    refine ⟨later, found, furthers.reachable, furthers.ahead, furthers.reachable.rank_le, counted,
      fun enough => ?_⟩
    cases terminal : later.isTerminal most.toNat with
    | true => rfl
    | false =>
      have far : DeliveryRecord.greatestRank most.toNat ≤ later.rank :=
        Nat.le_trans enough (Nat.le_trans (Nat.le_add_left _ _) (counted terminal))
      exact terminal.symm.trans (furthers.reachable.isTerminal_of_rank far)

private def sendable : Site → Bool := Site.findsAll fun subscription => subscription.Sends 2

private theorem meets_of_sendable {faulty : Prop} (site : Site) (can : sendable site = true) :
    (Conditions.tended ⟨0⟩ 2 faulty).Meets site :=
  Site.meets_of_findsAll (fun _ _ subscription sends _ =>
    ⟨subscription, rfl, of_decide_eq_true sends⟩) can

private abbrev awaiting : Site := .untried .ofOrders .null

private def unreachable : Nat → Except DeliveryError DeliveryResponse :=
  fun _ => .error (.network "connection refused")

/-- No outcome can be saved. -/
private def unsaving : Program.World Relay Site :=
  Site.serveUnless (fun call _ => match call with
    | .saveDelivery record => record.status ≠ .processing
    | _ => false) unreachable sendable

/-- What the first call leaves when it cannot save how its attempt ended. -/
private def interrupted : Site := ((process .standard ⟨0⟩).result.run unsaving awaiting).2

/-- What a number of calls leave after that, each of them completed. -/
private def worked : Nat → Site
  | 0 => interrupted
  | count + 1 =>
    ((process .standard ⟨0⟩).result.run (Site.serve unreachable sendable) (worked count)).2

private theorem leaves_interrupted : Leaves .standard ⟨0⟩ 2 awaiting interrupted := by
  have ended : ((process .standard ⟨0⟩).result.run unsaving awaiting).1 =
      some (.error (.ofStore (.database "connection reset"))) := by decide +kernel
  obtain ⟨trace, traced⟩ := Program.traced_of_run (fun effect site reply after served =>
    ⟨site, ((Conditions.tended ⟨0⟩ 2 True).around (· = ⟨0⟩)).drift_refl site,
      Site.turn_of_serveUnless trivial meets_of_sendable served⟩) (Prod.ext ended rfl)
  exact ⟨_, traced.comesTo⟩

private theorem completes_worked {count : Nat}
    (ended : ((process .standard ⟨0⟩).result.run (Site.serve unreachable sendable)
      (worked count)).1.isSome = true) :
    Completes .standard ⟨0⟩ 2 (worked count) (worked (count + 1)) := by
  obtain ⟨result, ended⟩ := Option.isSome_iff_exists.mp ended
  obtain ⟨trace, traced⟩ := Program.traced_of_run (fun effect site reply after served =>
    ⟨site, ((Conditions.tended ⟨0⟩ 2 False).around (· = ⟨0⟩)).drift_refl site,
      (Site.turn_of_serve meets_of_sendable served).imp_right fun met _ => met⟩) (Prod.ext ended rfl)
  exact ⟨_, traced.comesTo, trivial⟩

private theorem pursuit_worked {count : Nat} (few : count ≤ 5) :
    Pursuit .standard ⟨0⟩ 2 awaiting count (worked count) := by
  have ended : ∀ count < 5, ((process .standard ⟨0⟩).result.run (Site.serve unreachable sendable)
      (worked count)).1.isSome = true := by decide +kernel
  induction count with
  | zero => exact .call .start leaves_interrupted
  | succ count ih => exact .completed (ih (Nat.le_of_lt few)) (completes_worked (ended count few))

theorem retries_end_of_interrupted :
    Pursuit .standard ⟨0⟩ 2 awaiting 5 (worked 5) ∧
    (List.range 6).map (fun count => ((worked count).dossier ⟨0⟩).record.map DeliveryRecord.rank) =
      [some 2, some 3, some 5, some 5, some 5, some 5] ∧
    ∃ later, ((worked 5).dossier ⟨0⟩).record = some later ∧ later.isTerminal 2 = true := by
  have run : Pursuit .standard ⟨0⟩ 2 awaiting 5 (worked 5) := pursuit_worked (Nat.le_refl 5)
  have reachable := DeliveryRecord.ReachableWithin.of_pending (2 : UInt32).toNat ⟨0⟩
    Subscription.ofOrders.id "order.created" .null ⟨0⟩
  have meets : (Conditions.tended ⟨0⟩ 2 True).Meets awaiting :=
    meets_of_sendable awaiting (by decide +kernel)
  obtain ⟨_, _, _, ends⟩ := retries_end .standard meets rfl rfl reachable
  obtain ⟨later, found, _, _, _, _, terminal⟩ := ends 5 (worked 5) run
  exact ⟨run, by decide +kernel, later, found, terminal (Nat.le_refl 5)⟩

end HookRelay
