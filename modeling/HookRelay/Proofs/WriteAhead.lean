import Mathlib.Logic.Relation
import HookRelay.Proofs.Dispatch.Work

/-!
Attempts are saved before their requests are sent. Calls of `Dispatch.process` on different
deliveries may run interleaved, any of their operations may fail and any call may be broken off: no
attempt is sent twice all the same, and what has succeeded stays as it is.
-/
namespace HookRelay

open HookRelay.Attempt

/-- What is held about a delivery goes by attempts: each request was sent with its attempt on record,
attempts only grow, and the record has come at least as far as the requests. -/
structure Ledger (id : Uuid) (dossier : Dossier) : Prop where
  filed : dossier.Filed id
  counted : ∀ record, dossier.record = some record →
    record.attempts ≤ DeliveryRecord.greatestAttempts
  recorded : ∀ sending ∈ dossier.sendings, ∃ record, sending.stored = some record ∧
    record.id = id ∧ record.status = .processing ∧ record.attempts = sending.request.attempt
  increasing : (dossier.sendings.map fun sending => sending.request.attempt).Pairwise (· < ·)
  reached : ∀ sending ∈ dossier.sendings, ∃ record, dossier.record = some record ∧
    record.status ≠ .pending ∧ sending.request.attempt ≤ record.attempts

/-- A delivery goes on only this way: its attempts grow, and success is final. -/
structure Onward (before after : Dossier) : Prop where
  grows : ∀ record, before.record = some record →
    ∃ later, after.record = some later ∧ record.attempts ≤ later.attempts
  final : ∀ record, before.record = some record → record.status = .successful →
    after.record = some record ∧ after.sendings = before.sendings

namespace Onward

variable {before middle after : Dossier}

theorem of_same (record : after.record = before.record)
    (sendings : after.sendings = before.sendings) : Onward before after :=
  ⟨fun held found => ⟨held, record.trans found, Nat.le_refl _⟩,
    fun _ found _ => ⟨record.trans found, sendings⟩⟩

theorem trans (first : Onward before middle) (second : Onward middle after) :
    Onward before after := by
  constructor
  · intro record found
    obtain ⟨later, reached, grown⟩ := first.grows record found
    obtain ⟨last, ended, further⟩ := second.grows later reached
    exact ⟨last, ended, Nat.le_trans grown further⟩
  · intro record found succeeded
    obtain ⟨kept, sent⟩ := first.final record found succeeded
    obtain ⟨still, silent⟩ := second.final record kept succeeded
    exact ⟨still, silent.trans sent⟩

theorem saved {record next : DeliveryRecord} (stored : before.record = some record)
    (open_ : record.status ≠ .successful) (grown : record.attempts ≤ next.attempts) :
    Onward before (before.saved next) := by
  constructor
  · intro held found
    cases stored.symm.trans found
    exact ⟨next, rfl, grown⟩
  · intro held found succeeded
    cases stored.symm.trans found
    exact absurd succeeded open_

theorem sent {record : DeliveryRecord} {sending : Sending} (stored : before.record = some record)
    (open_ : record.status ≠ .successful) : Onward before (before.sent sending) := by
  constructor
  · exact fun held found => ⟨held, found, Nat.le_refl _⟩
  · intro held found succeeded
    cases stored.symm.trans found
    exact absurd succeeded open_

end Onward

namespace Ledger

variable {id : Uuid} {dossier after : Dossier} {record next : DeliveryRecord}

theorem unsent (filed : dossier.Filed id)
    (counted : ∀ record, dossier.record = some record →
      record.attempts ≤ DeliveryRecord.greatestAttempts)
    (sendings : dossier.sendings = []) : Ledger id dossier := by
  refine ⟨filed, counted, ?_, ?_, ?_⟩
  · simp [sendings]
  · simp [sendings]
  · simp [sendings]

theorem of_same (ledger : Ledger id dossier) (same : after.record = dossier.record)
    (sendings : after.sendings = dossier.sendings) : Ledger id after where
  filed record found := ledger.filed record (same ▸ found)
  counted record found := ledger.counted record (same ▸ found)
  recorded sending member := ledger.recorded sending (sendings ▸ member)
  increasing := sendings ▸ ledger.increasing
  reached sending member := by
    rw [same]
    exact ledger.reached sending (sendings ▸ member)

theorem saved (ledger : Ledger id dossier) (stored : dossier.record = some record)
    (named : next.id = id) (begun : next.status ≠ .pending)
    (grown : record.attempts ≤ next.attempts)
    (counted : next.attempts ≤ DeliveryRecord.greatestAttempts) :
    Ledger id (dossier.saved next) where
  filed held found := by
    cases found
    exact named
  counted held found := by
    cases found
    exact counted
  recorded := ledger.recorded
  increasing := ledger.increasing
  reached sending member := by
    obtain ⟨held, found, _, reached⟩ := ledger.reached sending member
    cases stored.symm.trans found
    exact ⟨next, rfl, begun, Nat.le_trans reached grown⟩

/-- A request may be sent once its attempt is on record, and is past all those before it. -/
theorem sent {sending : Sending} (ledger : Ledger id dossier)
    (stored : dossier.record = some record) (inFlight : record.status = .processing)
    (recorded : sending.stored = some record) (numbered : sending.request.attempt = record.attempts)
    (past : ∀ earlier ∈ dossier.sendings, earlier.request.attempt < record.attempts) :
    Ledger id (dossier.sent sending) where
  filed := ledger.filed
  counted := ledger.counted
  recorded other member := by
    rcases List.mem_append.mp member with earlier | last
    · exact ledger.recorded other earlier
    · cases List.mem_singleton.mp last
      exact ⟨record, recorded, ledger.filed record stored, inFlight, numbered.symm⟩
  increasing := by
    simp only [Dossier.sent, List.map_append, List.map_cons, List.map_nil]
    refine List.pairwise_append.mpr ⟨ledger.increasing, List.pairwise_singleton _ _, ?_⟩
    intro attempt member last same
    obtain ⟨earlier, found, rfl⟩ := List.mem_map.mp member
    rw [List.mem_singleton.mp same, numbered]
    exact past earlier found
  reached other member := by
    rcases List.mem_append.mp member with earlier | last
    · exact ledger.reached other earlier
    · cases List.mem_singleton.mp last
      exact ⟨record, stored, by rw [inFlight]; decide, Nat.le_of_eq numbered⟩

variable {conditions : Conditions} {policy : RetryPolicy} {start : Dossier} {since : Instant}
  {begun : DeliveryRecord} {subscription : Subscription}

theorem past (ledger : Ledger id dossier)
    (begins : Begins conditions dossier record begun subscription)
    (bounded : subscription.maxAttempts ≤ DeliveryRecord.greatestAttempts) :
    record.attempts ≤ begun.attempts ∧ begun.attempts ≤ DeliveryRecord.greatestAttempts ∧
      ∀ earlier ∈ dossier.sendings, earlier.request.attempt < begun.attempts := by
  have counted := ledger.counted record begins.stored
  obtain ⟨able, rfl⟩ := DeliveryRecord.beginAttempt_eq_ok begins.begins
  refine ⟨Nat.le_min.mpr ⟨Nat.le_succ _, counted⟩, Nat.min_le_right _ _, fun earlier member => ?_⟩
  obtain ⟨held, found, begun, reached⟩ := ledger.reached earlier member
  cases begins.stored.symm.trans found
  have left : record.attempts < subscription.maxAttempts := by
    unfold DeliveryRecord.canAttempt at able
    cases status : record.status with
    | pending => exact absurd status begun
    | failed => simpa [status] using able
    | processing => simp [status] at able
    | successful => simp [status] at able
  show earlier.request.attempt < min (record.attempts + 1) DeliveryRecord.greatestAttempts
  omega

private theorem kept_save {reply : Except StoreError Unit} {site turned : Site}
    (ledger : Ledger id (site.dossier id)) (stored : (site.dossier id).record = some record)
    (named : next.id = id) (landed : record.status ≠ .successful) (status : next.status ≠ .pending)
    (grown : record.attempts ≤ next.attempts)
    (counted : next.attempts ≤ DeliveryRecord.greatestAttempts)
    (turn : conditions.Turn (.store (.saveDelivery next)) site reply turned) :
    Ledger id (turned.dossier id) ∧ Onward (site.dossier id) (turned.dossier id) := by
  rcases Conditions.turn_saveDelivery turn with ⟨_, changed⟩ | ⟨_, same⟩
  · rw [changed id, if_pos named]
    exact ⟨ledger.saved stored named status grown counted, .saved stored landed grown⟩
  · rw [same id]
    exact ⟨ledger, .of_same rfl rfl⟩

/-- However an effect of work on the delivery turns out, the ledger is kept. -/
theorem kept {effect : Effect} {reply : effect.Reply} {site turned : Site}
    (bounded : ∀ id owner subscription, conditions.offers id owner (some subscription) →
      subscription.maxAttempts ≤ DeliveryRecord.greatestAttempts)
    (began : Ledger id start) (ledger : Ledger id (site.dossier id))
    (doing : Doing conditions policy id start since effect (site.dossier id))
    (turn : conditions.Turn effect site reply turned) :
    Ledger id (turned.dossier id) ∧ Onward (site.dossier id) (turned.dossier id) := by
  generalize held : site.dossier id = dossier at doing
  cases doing with
  | quiet stage silent =>
    rw [← held, Conditions.turn_dossier_eq turn (silent id)]
    exact ⟨ledger, .of_same rfl rfl⟩
  | @begin record begun subscription begins =>
    obtain ⟨grown, counted, _⟩ := began.past begins (bounded _ _ _ begins.offered)
    obtain ⟨able, _⟩ := DeliveryRecord.beginAttempt_eq_ok begins.begins
    have landed : record.status ≠ .successful := by
      intro succeeded
      simp [DeliveryRecord.canAttempt, succeeded] at able
    have status : begun.status ≠ .pending := by rw [begins.inFlight]; decide
    rw [← held] at begins ⊢
    exact kept_save ledger begins.stored (begins.named ledger.filed) landed status grown counted turn
  | @send record begun subscription begins body signature now =>
    have past := (began.past begins (bounded _ _ _ begins.offered)).2.2
    have sent := (Conditions.turn_send turn id).trans (if_pos (begins.named began.filed))
    have landed : begun.status ≠ .successful := by rw [begins.inFlight]; decide
    rw [held] at sent ledger
    rw [sent]
    exact ⟨ledger.sent rfl begins.inFlight rfl rfl past, .sent rfl landed⟩
  | @succeed record begun succeeded subscription sending response now succeeds =>
    have stored : (site.dossier id).record = some begun := by rw [held]; rfl
    have counted := ledger.counted begun stored
    have landed : begun.status ≠ .successful := by rw [succeeds.toBegins.inFlight]; decide
    have named := succeeds.named began.filed
    obtain ⟨_, rfl⟩ := DeliveryRecord.succeed_eq_ok succeeds.succeeds
    rw [← held]
    exact kept_save ledger stored named landed nofun (Nat.le_refl _) counted turn
  | @fail _ record failed subscription failure now ends =>
    have stored : (site.dossier id).record = some record := by rw [held]; exact ends.fails.stored
    have counted := ledger.counted record stored
    have landed : record.status ≠ .successful := by rw [ends.fails.inFlight]; decide
    have named := ends.named began.filed
    obtain ⟨_, rfl⟩ := DeliveryRecord.fail_eq_ok ends.ends
    rw [← held]
    exact kept_save ledger stored named landed nofun (Nat.le_refl _) counted turn
  | retry retries =>
    rw [← held]
    rcases Conditions.turn_enqueue turn with ⟨_, due, _, changed⟩ | ⟨_, same⟩
    · rw [changed id, if_pos rfl]
      exact ⟨ledger.of_same rfl rfl, .of_same rfl rfl⟩
    · rw [same id]
      exact ⟨ledger, .of_same rfl rfl⟩
  | announce stage named =>
    have changed := (Conditions.turn_publish turn id).trans (if_pos named)
    rw [← held, changed]
    exact ⟨ledger.of_same rfl rfl, .of_same rfl rfl⟩

end Ledger

end HookRelay
