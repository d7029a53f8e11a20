import HookRelay.Effect
import HookRelay.Proofs.Sql.Storage

namespace HookRelay.Sql

variable {ι : Type} {outside : Program.World Relay ι} {database : Database} {state next : ι}

/-- A relay whose store is the database; everything else is answered from outside. -/
def relay (outside : Program.World Relay ι) : Program.World Relay (Database × ι)
  | .store call, (database, state) =>
    let (reply, database) := database.ask .strict (answer call)
    (reply, database, state)
  | effect, (database, state) =>
    let (reply, state) := outside effect state
    (reply, database, state)

theorem relay_store (call : StoreCall) {reply : Except StoreError call.Reply} {after : Database}
    (asked : database.ask .strict (answer call) = (some reply, after)) :
    relay outside (.store call) (database, state) = (some reply, after, state) := by
  show ((database.ask .strict (answer call)).1,
    (database.ask .strict (answer call)).2, state) = _
  rw [asked]

theorem relay_now {now : Instant} (told : outside .now state = (some now, next)) :
    relay outside .now (database, state) = (some now, database, next) := by
  show ((outside .now state).1, database, (outside .now state).2) = _
  rw [told]
  rfl

theorem relay_send {request : DeliveryRequest} {reception : Except DeliveryError DeliveryResponse}
    (returned : outside (.send request) state = (some reception, next)) :
    relay outside (.send request) (database, state) = (some reception, database, next) := by
  show ((outside (.send request) state).1, database, (outside (.send request) state).2) = _
  rw [returned]
  rfl

/-- Counting a result leaves records alone. -/
theorem ask_increment (database : Database) (id : Uuid) (counter : Counter) (now : Instant) :
    (database.ask .strict (increment id counter now)).2.deliveries =
      database.deliveries := by
  have left := Database.execute_increment .strict database counter id now
  have accepted : (Statement.increment counter id now).parameters.all Value.isStorable = true := rfl
  cases answered : database.execute .strict (.increment counter id now) with
  | mk reply after =>
    rw [answered] at left
    rw [increment]
    cases reply with
    | error error =>
      rw [Database.ask_send_error answered accepted]
      exact left
    | ok reply =>
      rw [Database.ask_send answered accepted]
      show (after.ask _ (if reply.affected = 0 then throw _ else pure ())).2.deliveries = _
      split
      · exact left
      · exact left

/-- A record with an answer that the database takes in. -/
def Plain (record : DeliveryRecord) : Prop := ∀ body ∈ record.responseBody, '\x00' ∉ body.toList

variable {record begun ended : DeliveryRecord} {subscription : Subscription}

private theorem isStorable_text_iff (text : String) :
    (Value.text text).isStorable = true ↔ '\x00' ∉ text.toList := by
  simp [Value.isStorable]

/-- Only the answer of a receiver may be refused, for a null character. -/
theorem all_isStorable_iff (record : DeliveryRecord) :
    (((recordRow record).project progressColumns).map Prod.snd).all Server.strict.accepts = true ↔
      Plain record := by
  have values : ((recordRow record).project progressColumns).map Prod.snd =
      [.text record.status.text, .integer record.attempts,
        .optional .integer (record.responseCode.map Int.ofNat),
        .optional .text record.responseBody, .optional .timestamp record.completedAt] := rfl
  have status : (Value.text record.status.text).isStorable = true := by
    cases record.status <;> decide
  have code : (Value.optional .integer (record.responseCode.map Int.ofNat)).isStorable = true := by
    cases record.responseCode <;> rfl
  have completed : (Value.optional .timestamp record.completedAt).isStorable = true := by
    cases record.completedAt <;> rfl
  have body : (Value.optional .text record.responseBody).isStorable = true ↔ Plain record := by
    unfold Plain
    cases record.responseBody with
    | none => simp [Value.optional, Value.isStorable]
    | some body => simp [Value.optional, isStorable_text_iff]
  rw [values]
  simp only [Server.strict, List.all_cons, List.all_nil, Bool.and_true, Bool.and_eq_true, status,
    code, completed, body, true_and]
  exact and_iff_right rfl

abbrev Database.Finds (database : Database) (record : DeliveryRecord) : Prop :=
  Deliveries.repository.Finds .strict database record

theorem ask_saveDelivery (found : database.Finds begun) (same : begun.SameDelivery ended)
    (fits : Deliveries.Fits ended) (coded : Deliveries.Coded ended) (plain : Plain ended) :
    ∃ after, database.ask .strict (saveDelivery ended) = (some (.ok ()), after) ∧
      after.Finds ended ∧ after.subscriptions = database.subscriptions := by
  obtain ⟨row, held, agrees, _⟩ := (Deliveries.lawful.find_eq_some_iff rfl).mp found
  have held : (database.rows .deliveries).find? ended.id = some row := same.id ▸ held
  have kept : Deliveries.kept ended begun = ended := by
    obtain ⟨id, owner, eventType, payload, createdAt⟩ := same
    simp only [Deliveries.kept, ← id, ← owner, ← eventType, ← payload, ← createdAt]
  refine ⟨_, Deliveries.lawful.ask_save Server.verbatim_strict
    ((Deliveries.fits_iff ended).mp fits) held ((all_isStorable_iff ended).mpr plain), ?_, rfl⟩
  refine Deliveries.lawful.finds_put (Server.verbatim_strict.takesIds _) coded
      ((agrees.change _).trans ?_)
  have replaced := Deliveries.agrees_kept ended begun
  rwa [kept] at replaced

/-- What the database says to a text with a null character. -/
def nullRefusal : StoreError := .database
  "error returned from database: invalid byte sequence for encoding \"UTF8\": 0x00"

theorem ask_saveDelivery_of_null (fits : Deliveries.Fits ended) (null : ¬Plain ended) :
    database.ask .strict (saveDelivery ended) = (some (.error nullRefusal), database) := by
  have refused : (Statement.update .deliveries ended.id progressColumns
      (((recordRow ended).project progressColumns).map Prod.snd)).parameters.all
        Server.strict.accepts = false :=
    eq_false_of_ne_true fun accepted =>
      null ((all_isStorable_iff ended).mp (Bool.and_eq_true _ _ ▸ accepted : _ ∧ _).2)
  show database.ask _ (Deliveries.repository.save ended) = _
  rw [Deliveries.lawful.save_eq, Bound.hold_of_within ((Deliveries.fits_iff ended).mp fits)]
  exact Database.ask_send_of_refused refused _

end HookRelay.Sql
