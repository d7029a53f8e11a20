import HookRelay.Proofs.Attempt
import HookRelay.Proofs.Record.Lifecycle

namespace HookRelay.Attempt

variable {conditions : Conditions} {policy : RetryPolicy} {id : Uuid} {start : Dossier}
  {since : Instant}

private theorem record_of_save {next : DeliveryRecord} {reply : Except StoreError Unit}
    {site after : Site} (named : next.id = id)
    (turn : conditions.Turn (.store (.saveDelivery next)) site reply after) :
    (after.dossier id).record = (site.dossier id).record ∨
      (after.dossier id).record = some next := by
  rcases Conditions.turn_saveDelivery turn with ⟨_, changed⟩ | ⟨_, same⟩
  · rw [changed id, if_pos named]
    exact .inr rfl
  · rw [same id]
    exact .inl rfl

/-- However an effect of the work turns out, the record of its delivery stays as it was or takes a
transition, one that the limit of its subscription allows. -/
theorem Doing.record_cases {effect : Effect} {reply : effect.Reply} {site after : Site}
    (limit : Uuid → UInt32)
    (doing : Doing conditions policy id start since effect (site.dossier id))
    (filed : start.Filed id)
    (limited : ∀ (record : DeliveryRecord) (subscription : Subscription), record.id = id →
      conditions.offers record.id record.subscriptionId (some subscription) →
      subscription.maxAttempts = (limit record.subscriptionId).toNat)
    (turn : conditions.Turn effect site reply after) :
    (after.dossier id).record = (site.dossier id).record ∨
      ∃ (record next : DeliveryRecord) (call : RecordCall),
        (site.dossier id).record = some record ∧
        call.limit ≤ (limit record.subscriptionId).toNat ∧ call.answer record = .ok next ∧
        (after.dossier id).record = some next := by
  generalize held : site.dossier id = dossier at doing
  cases doing with
  | quiet stage silent =>
    left
    rw [Conditions.turn_dossier_eq turn (silent id), held]
  | @begin record begun subscription begins =>
    rw [← held]
    refine (record_of_save (begins.named filed) turn).imp_right fun saved => ?_
    have room := limited record subscription (filed record begins.stored) begins.offered
    have granted : (RecordCall.begin (limit record.subscriptionId)).answer record = .ok begun := by
      rw [RecordCall.answer, ← room]
      exact begins.begins
    exact ⟨record, begun, _, held ▸ begins.stored, Nat.le_refl _, granted, saved⟩
  | send begins body signature now =>
    left
    have sent := (Conditions.turn_send turn id).trans (if_pos (begins.named filed))
    rw [sent, held]
    rfl
  | @succeed record begun succeeded subscription sending response now succeeds =>
    rw [← held]
    refine (record_of_save (succeeds.named filed) turn).imp_right fun saved => ?_
    have granted : (RecordCall.succeed response.code response.body now).answer begun =
        .ok succeeded := succeeds.succeeds
    exact ⟨begun, succeeded, _, by rw [held]; rfl, Nat.zero_le _, granted, saved⟩
  | @fail _ record failed subscription failure now ends =>
    rw [← held]
    refine (record_of_save (ends.named filed) turn).imp_right fun saved => ?_
    have granted : (RecordCall.fail failure.statusCode? (Dispatch.failureText failure) now).answer
        record = .ok failed := ends.ends
    exact ⟨record, failed, _, held ▸ ends.fails.stored, Nat.zero_le _, granted, saved⟩
  | retry retries =>
    left
    rcases Conditions.turn_enqueue turn with ⟨_, due, _, changed⟩ | ⟨_, same⟩
    · rw [changed id, if_pos rfl, held]
      rfl
    · rw [same id, held]
  | announce stage named =>
    left
    rw [Conditions.turn_publish turn, if_pos named, held]
    rfl

end HookRelay.Attempt
