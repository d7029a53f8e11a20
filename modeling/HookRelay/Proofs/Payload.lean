import HookRelay.Delivery.Payload
import HookRelay.Proofs.Json.Members

namespace HookRelay

open Json

variable {subscription : Subscription} {record : DeliveryRecord} {now : Instant}

/-- The member under each key: five are the delivery's own, the others those of the payload, which is
itself the member `data` when it is no object. -/
def bodyField? (subscription : Subscription) (record : DeliveryRecord) (now : Instant)
    (key : String) : Option Value :=
  if key = "subscription_id" then some (.string subscription.id.text)
  else if key = "subscription_name" then some (.string subscription.name)
  else if key = "event" then some (.string record.eventType)
  else if key = "delivery_id" then some (.string record.id.text)
  else if key = "timestamp" then some (.string now.offsetText)
  else match record.payload with
    | .object members => lookup? key members
    | payload => if key = "data" then some payload else none

theorem enrich_field? (subscription : Subscription) (record : DeliveryRecord) (now : Instant)
    (key : String) :
    (enrich subscription record now).field? key = bodyField? subscription record now key := by
  have payload : lookup? key (payloadMembers record.payload) = match record.payload with
      | .object members => lookup? key members
      | payload => if key = "data" then some payload else none := by
    cases record.payload <;> rfl
  simp only [enrich, deliveryMembers, List.foldl_cons, List.foldl_nil, Value.field?,
    lookup?_insert, payload, bodyField?]
  grind

theorem deliveryMembers_string {member : String × Value}
    (own : member ∈ deliveryMembers subscription record now) :
    ∃ text, member.2 = .string text := by
  simp only [deliveryMembers, List.mem_cons, List.not_mem_nil, or_false] at own
  rcases own with rfl | rfl | rfl | rfl | rfl <;> exact ⟨_, rfl⟩

private theorem normal_payloadMembers {payload : Value} (normal : payload.normal = payload) :
    (Value.object (payloadMembers payload)).normal = .object (payloadMembers payload) := by
  have alone (payload : Value) (normal : payload.normal = payload) :
      (Value.object [("data", payload)]).normal = .object [("data", payload)] :=
    (normal_object_iff _).mpr ⟨List.pairwise_singleton _ _, fun member found => by
      cases List.mem_singleton.mp found
      exact normal⟩
  cases payload with
  | object members => exact normal
  | _ => exact alone _ normal

theorem enrich_normal (normal : record.payload.normal = record.payload) :
    (enrich subscription record now).normal = enrich subscription record now := by
  obtain ⟨ordered, each⟩ := (normal_object_iff _).mp (normal_payloadMembers normal)
  refine (normal_object_iff _).mpr ⟨ordered_foldl_insert _ ordered, fun member found => ?_⟩
  rcases mem_foldl_insert found with own | held
  · obtain ⟨text, same⟩ := deliveryMembers_string own
    rw [same]
    rfl
  · exact each member held

/-- The members of a body are exactly those that it should have. -/
theorem enrich_members (normal : record.payload.normal = record.payload) :
    ∃ members, enrich subscription record now = .object members ∧ Ordered members ∧
      ∀ key value, (key, value) ∈ members ↔
        bodyField? subscription record now key = some value := by
  refine ⟨_, rfl, ((normal_object_iff _).mp (enrich_normal normal)).1, fun key value => ?_⟩
  rw [← enrich_field?]
  exact mem_iff_lookup? ((normal_object_iff _).mp (enrich_normal normal)).1

end HookRelay
