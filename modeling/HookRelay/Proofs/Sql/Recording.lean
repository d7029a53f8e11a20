import HookRelay.Proofs.Signature
import HookRelay.Proofs.Sql.Closing

namespace HookRelay.Sql

open HookRelay.Dispatch

variable {ι : Type} {outside : Program.World Relay ι} {database : Database} {state : ι}
  {record begun : DeliveryRecord} {subscription : Subscription} {reception : Reception}
  {policy : RetryPolicy}

theorem Held.run_process {point : Point} (held : Held database record subscription)
    (goes : Point.Goes policy (.loaded record) (.store (.findSubscription record.subscriptionId))
      (.ok (some subscription)) point) : ∃ left, point.Governs policy left ∧
    (Dispatch.process policy record.id).result.run (relay outside) (database, state) =
      left.run (relay outside) (database, state) := by
  have loads : relay outside (.store (.findDelivery record.id)) (database, state) =
      (some (.ok (some record)), database, state) := relay_store (.findDelivery record.id) held.found
  have owned : relay outside (.store (.findSubscription record.subscriptionId)) (database, state) =
      (some (.ok (some subscription)), database, state) :=
    relay_store (.findSubscription record.subscriptionId) (held.owner ▸ held.owned)
  obtain ⟨left, governs, loaded⟩ := (governs_process policy record.id).run_eq (.loads record) loads
  obtain ⟨left, governs, found⟩ := governs.run_eq goes owned
  exact ⟨left, governs, loaded.trans found⟩

/-- An attempt that is found in flight is put on record as interrupted, whatever came of it. -/
theorem Held.finds_interrupted (held : Held database record subscription)
    (flight : record.status = .processing) (responsive : Responsive outside) :
    ∃ now, ((Dispatch.process policy record.id).result.run (relay outside)
      (database, state)).2.1.Finds (closed record (.error (.interrupted record.attempts)) now) := by
  obtain ⟨left, governs, ran⟩ := held.run_process (.interrupted subscription flight)
  rw [ran]
  have ends : Ends record subscription (.error (.interrupted record.attempts))
      (left.run (relay outside) (database, state)) :=
    ends_refused responsive governs held rfl rfl rfl nofun
  refine ends.recorded ?_
  exact (Text.Visible.number (by decide) (by decide) record.attempts : Text.Visible
    ("attempt " ++ toString record.attempts ++
      " was interrupted before its outcome was recorded").toList).null_not_mem

/-- A delivery of which an attempt begins. -/
structure Turn (database : Database) (record begun : DeliveryRecord) (subscription : Subscription) :
    Prop extends Held database record subscription where
  active : subscription.isActive = true
  begins : record.beginAttempt subscription.maxAttempts = .ok begun
  limited : subscription.maxAttempts ≤ 0x7FFFFFFF
  usable : subscription.secret.isEmpty = false

theorem Turn.reachable_begun (turn : Turn database record begun subscription) :
    begun.ReachableWithin 0x7FFFFFFF := by
  have limit : (UInt32.ofNat subscription.maxAttempts).toNat = subscription.maxAttempts :=
    UInt32.toNat_ofNat_of_lt (Nat.lt_of_le_of_lt turn.limited (by decide))
  have limited : (RecordCall.begin (.ofNat subscription.maxAttempts)).limit ≤ 0x7FFFFFFF := by
    rw [RecordCall.limit, limit]
    exact turn.limited
  refine turn.reachable.answered limited ?_
  rw [RecordCall.answer, limit]
  exact turn.begins

theorem Turn.processing_begun (turn : Turn database record begun subscription) :
    begun.status = .processing := by
  obtain ⟨_, rfl⟩ := DeliveryRecord.beginAttempt_eq_ok turn.begins
  rfl

/-- Its attempt is on record before the request is sent. -/
theorem Turn.ask_saveDelivery (turn : Turn database record begun subscription) :
    ∃ after, database.ask .strict (saveDelivery begun) = (some (.ok ()), after) ∧
      Held after begun subscription := by
  obtain ⟨_, _, _, coded⟩ := (Deliveries.lawful.find_eq_some_iff rfl).mp turn.found
  obtain ⟨_, same⟩ := DeliveryRecord.beginAttempt_eq_ok turn.begins
  have delivery : record.SameDelivery begun := same ▸ ⟨rfl, rfl, rfl, rfl, rfl⟩
  have plain : Plain begun := same ▸ turn.plain
  obtain ⟨after, saved, found, apart⟩ := Sql.ask_saveDelivery turn.found delivery
    turn.reachable_begun.attempts_le (same ▸ coded) plain
  refine ⟨after, saved, ?_⟩
  exact { found, plain
          owned := Subscriptions.lawful.finds_of_rows_eq rfl apart turn.owned
          owner := delivery.subscriptionId.trans turn.owner
          reachable := turn.reachable_begun }

/-- The request of an attempt is sent, and this comes back for it. -/
def Receives (outside : Program.World Relay ι) (state : ι) (record begun : DeliveryRecord)
    (subscription : Subscription) (reception : Reception) : Prop :=
  ∃ (prepared : Instant) (signature : String) (first second : ι),
    outside .now state = (some prepared, first) ∧
    outside (.send (Dispatch.request subscription begun
      (Json.canonical (enrich subscription record prepared)) signature prepared)) first =
        (some reception, second)

theorem Turn.ends_process (turn : Turn database record begun subscription)
    (responsive : Responsive outside) (policy : RetryPolicy) (state : ι) :
    ∃ reception, Receives outside state record begun subscription reception ∧
      Client.Returns IsCoded reception ∧
      Ends begun subscription reception
        ((Dispatch.process policy record.id).result.run (relay outside) (database, state)) := by
  obtain ⟨able, _⟩ := DeliveryRecord.beginAttempt_eq_ok turn.begins
  have landed : record.status ≠ .processing := ((DeliveryRecord.canAttempt_iff _ _).mp able).1
  obtain ⟨after, saved, held⟩ := turn.ask_saveDelivery
  obtain ⟨prepared, first, told⟩ := responsive.tells state
  have signed := Signature.signBytes_of_usable turn.usable
    (Json.canonical (enrich subscription record prepared))
  obtain ⟨left, governs, found⟩ := turn.run_process (.admits subscription landed turn.active able)
  obtain ⟨left, governs, prepares⟩ := governs.run_eq (.begins prepared turn.begins signed)
    (relay_now told)
  obtain ⟨left, governs, begins⟩ := governs.run_eq .readies
    (relay_store (.saveDelivery begun) saved)
  obtain ⟨reception, second, returned, returns⟩ := responsive.returns (Dispatch.request
    subscription begun (Json.canonical (enrich subscription record prepared)) _ prepared) first
  obtain ⟨left, governs, sends⟩ := governs.run_eq (.sends reception) (relay_send returned)
  refine ⟨reception, ⟨prepared, _, first, second, told, returned⟩, returns, ?_⟩
  rw [found, prepares, begins, sends]
  exact ends_answered responsive governs held (Reception.code_lt returns)

/-- The end of every attempt is put on record, with one exception: where a null byte is among those
kept of an answer, accepted or not, the record stays in flight, to be found interrupted later. -/
theorem recorded_unless_null (turn : Turn database record begun subscription)
    (responsive : Responsive outside) (policy : RetryPolicy) (state : ι) :
    begun.attempts ≤ 0x7FFFFFFF ∧ ∃ reception,
      Receives outside state record begun subscription reception ∧
      (∀ code ∈ reception.code?, code < 0x10000) ∧
      (∀ failure, reception = .error failure → '\x00' ∉ reception.text.toList) ∧
      (∀ response, reception = .ok response → ∃ answer, response = Client.response answer ∧
        (Client.hasNoBody answer.code = false → ∀ body, Capture.Delivers answer.chunks body →
          ('\x00' ∈ reception.text.toList ↔ 0 ∈ Capture.kept body))) ∧
      let ending := (Dispatch.process policy record.id).result.run (relay outside) (database, state)
      Ends begun subscription reception ending ∧
      ('\x00' ∈ reception.text.toList → ∀ (again : RetryPolicy) (later : Program.World Relay ι)
        (resumed : ι), Responsive later → ∃ now,
          ((Dispatch.process again begun.id).result.run (relay later)
            (ending.2.1, resumed)).2.1.Finds
              (closed begun (.error (.interrupted begun.attempts)) now)) := by
  obtain ⟨reception, receives, returns, ends⟩ := turn.ends_process responsive policy state
  refine ⟨turn.reachable_begun.attempts_le, reception, receives, Reception.code_lt returns, ?_, ?_,
    ends, ?_⟩
  · rintro failure rfl
    exact Reception.null_not_mem_text returns
  · rintro response rfl
    cases returns with
    | answered coded =>
      exact ⟨_, rfl, fun bodied body delivers => Reception.null_mem_text_iff bodied delivers⟩
  · intro null again later resumed responsive
    exact (ends.lost null).2.finds_interrupted turn.processing_begun responsive

private def billing : Subscription :=
  ⟨⟨1⟩, "billing", "https://billing.example/hook", ⟨[0x2a]⟩, none, none, none, ["invoice.due"],
    .active, 30, 3, 0, 0, none, ⟨0⟩, ⟨0⟩⟩

private def unpaid : DeliveryRecord := .pending ⟨2⟩ billing.id "invoice.due" (.string "42") ⟨0⟩

private def collecting : DeliveryRecord := { unpaid with status := .processing, attempts := 1 }

private def books : Database :=
  (Database.empty.put billing.id (subscriptionRow billing) .subscriptions).put unpaid.id
    (recordRow unpaid) .deliveries

/-- A receiver that accepts, with a null character behind its words. -/
private def acceptance : WireAnswer := ⟨200, none, [.bytes [0x6f, 0x6b, 0x00]]⟩

private def accepting : Program.World Relay Unit
  | .now, _ => (some ⟨0⟩, ())
  | .send _, _ => (some (.ok (Client.response acceptance)), ())
  | _, _ => (none, ())

/-- A delivery that was accepted stays in flight. -/
theorem lost_on_acceptance : Turn books unpaid collecting billing ∧ Responsive accepting ∧
    acceptance.code = 200 ∧
    let ending := (Dispatch.process .standard unpaid.id).result.run (relay accepting) (books, ())
    ending.1 = some (.error (.ofStore nullRefusal)) ∧
      ending.2.1.Finds collecting ∧ collecting.status = .processing := by
  have uncoded : ∀ code ∈ unpaid.responseCode, code < 0x10000 := nofun
  have owned : Subscriptions.repository.Finds .strict
      (Database.empty.put billing.id (subscriptionRow billing) .subscriptions) billing :=
    Subscriptions.lawful.finds_put rfl trivial fun _ _ => rfl
  have turn : Turn books unpaid collecting billing :=
    { found := Deliveries.lawful.finds_put rfl uncoded fun _ _ => rfl
      owned := Subscriptions.lawful.finds_of_rows_eq rfl (by rfl) owned
      owner := rfl
      plain := nofun
      reachable := .of_pending _ _ _ _ _ _
      active := by decide
      begins := rfl
      limited := by decide
      usable := by decide }
  have responsive : Responsive accepting :=
    ⟨fun _ => ⟨⟨0⟩, (), rfl⟩, fun _ _ => ⟨_, (), rfl, .answered (by decide : (200 : Nat) < _)⟩⟩
  obtain ⟨_, reception, ⟨_, _, _, _, _, returned⟩, _, _, _, ends, _⟩ :=
    recorded_unless_null turn responsive .standard ()
  cases returned
  obtain ⟨stopped, held⟩ := ends.lost
    ((Reception.null_mem_text_iff rfl (.whole [[0x6f, 0x6b, 0x00]])).mpr (by decide))
  exact ⟨turn, responsive, rfl, stopped, held.found, rfl⟩

end HookRelay.Sql
