import HookRelay.Proofs.Json.Recovery
import HookRelay.Proofs.Payload
import HookRelay.Proofs.Rotation.Standing
import HookRelay.Proofs.Serving
import HookRelay.Proofs.Signature

namespace HookRelay

open Json

variable {subscription : Subscription} {record : DeliveryRecord} {now : Instant} {bytes : Bytes}
  {payload : Value}

/-- Inside its body, a payload nests no deeper than texts are read. -/
def Json.Value.Fits (payload : Value) : Prop :=
  (∃ members, payload = .object members) ∨ payload.nesting < greatestDepth

/-- What can be done with a body by whoever holds the subscription, given the signature that came with
it. Secrets in disorder are reported, and accept nothing. -/
structure Checks (subscription : Subscription) (body : Bytes) (signature : String)
    (received : Value) : Prop where
  read : read? body = some received
  verified : Signature.verify received signature.toList subscription.secret = true
  accepted : subscription.GraceInOrder → ∀ tolerance now header,
    Inbound.isFresh tolerance now (some header) = true →
      Inbound.validate tolerance now received (some signature.toList) (some header) subscription =
        .ok true
  reported : ¬subscription.GraceInOrder → ∀ tolerance now header,
    Inbound.isFresh tolerance now (some header) = true →
      ∃ fault, Inbound.validate tolerance now received (some signature.toList) (some header)
        subscription = .error (.malformedState fault)

/-! ### Bodies are legible -/

private theorem legible_payloadMembers (legible : Legible greatestDepth payload)
    (fits : payload.Fits) :
    Ordered (payloadMembers payload) ∧
      ∀ member ∈ payloadMembers payload, Legible (greatestDepth - 1) member.2 := by
  have wrapped (shallow : payload.nesting < greatestDepth) :
      Ordered [("data", payload)] ∧
        ∀ member ∈ [("data", payload)], Legible (greatestDepth - 1) member.2 :=
    ⟨List.pairwise_singleton _ _, List.forall_mem_singleton.mpr
      (legible.of_nesting_le (Nat.le_pred_of_lt shallow))⟩
  rcases fits with ⟨members, rfl⟩ | shallow
  · cases legible with
    | object ordered legible => exact ⟨ordered, legible⟩
  · cases payload with
    | object members =>
      cases legible with
      | object ordered legible => exact ⟨ordered, legible⟩
    | _ => exact wrapped shallow

theorem legible_enrich (legible : Legible greatestDepth record.payload)
    (fits : record.payload.Fits) :
    Legible greatestDepth (enrich subscription record now) := by
  obtain ⟨ordered, each⟩ := legible_payloadMembers legible fits
  refine .object (ordered_foldl_insert _ ordered) fun member found => ?_
  rcases mem_foldl_insert found with own | held
  · obtain ⟨text, same⟩ := deliveryMembers_string own
    exact same ▸ .string text
  · exact each member held

theorem mem_floats_of_enrich {number : Binary64}
    (member : number ∈ (enrich subscription record now).floats) :
    number ∈ record.payload.floats := by
  rw [enrich, Value.floats, memberFloats_eq_flatMap] at member
  obtain ⟨held, found, inside⟩ := List.mem_flatMap.mp member
  have payload : memberFloats (payloadMembers record.payload) = record.payload.floats := by
    cases record.payload with
    | object members => rfl
    | _ => exact List.append_nil _
  rw [← payload, memberFloats_eq_flatMap]
  rcases mem_foldl_insert found with own | kept
  · obtain ⟨text, same⟩ := deliveryMembers_string own
    rw [same] at inside
    cases inside
  · exact List.mem_flatMap.mpr ⟨held, kept, inside⟩

/-! ### What the receiver makes of it -/

private theorem checks_of_canonical {body : Bytes} {signature : String} {received : Value}
    (signed : Signature.signBytes body subscription.secret = .ok signature)
    (read : read? body = some received) (same : canonical received = body) :
    Checks subscription body signature received := by
  have verified : Signature.verifyBytes (canonical received) signature.toList
      subscription.secret = true := by
    rw [same]
    exact Signature.verifyBytes_of_signBytes signed
  have usable := (Signature.signBytes_eq_ok signed).1
  refine ⟨read, verified, fun grace tolerance now header fresh => ?_,
    fun disorder tolerance now header fresh => ?_⟩
  · obtain ⟨secrets, active, member⟩ := Subscription.activeSecrets_of_order ⟨usable, grace⟩ now
    rw [Inbound.validate_of_fresh fresh active]
    exact congrArg Except.ok (List.any_eq_true.mpr ⟨_, member, verified⟩)
  · obtain ⟨fault, refused⟩ := Subscription.graceWindow_of_disorder disorder
    refine ⟨fault, ?_⟩
    simp [Inbound.validate, fresh, Subscription.activeSecrets, usable,
      Subscription.previousIsValid, refused, Except.map]

/-- Every body is read, and its signature verifies what is read, where the payload leaves room for its
body and the texts of its floats, if it has any, are read as they were written. -/
theorem body_checks (found : read? bytes = some record.payload)
    (steady : ∀ number ∈ record.payload.floats, (Value.number (.float number)).Recovers)
    (fits : record.payload.Fits) (usable : subscription.secret.isEmpty = false) :
    ∃ signature received,
      Signature.signBytes (canonical (enrich subscription record now)) subscription.secret =
        .ok signature ∧
      Checks subscription (canonical (enrich subscription record now)) signature received ∧
      (record.payload.floats = [] → received = enrich subscription record now) := by
  have legible : Legible greatestDepth (enrich subscription record now) :=
    legible_enrich (legible_of_read? found) fits
  have recovers : (enrich subscription record now).Recovers :=
    legible.recovers_iff.mpr fun number member =>
      (recovers_float_iff number).mp (steady number (mem_floats_of_enrich member))
  obtain ⟨received, read, same⟩ := Option.map_eq_some_iff.mp recovers
  have signed := Signature.signBytes_of_usable usable (canonical (enrich subscription record now))
  refine ⟨_, received, signed, checks_of_canonical signed read same, fun whole => ?_⟩
  have none : (enrich subscription record now).floats = [] :=
    List.eq_nil_iff_forall_not_mem.mpr fun number member =>
      List.not_mem_nil (whole ▸ mem_floats_of_enrich member)
  obtain ⟨_, rfl⟩ := legible.read?_canonical_iff.mp read
  exact legible.reread_of_whole none

/-- As many arrays inside each other as given. -/
private def levels (count : Nat) : Bytes :=
  Utf8.encode (List.replicate count '[' ++ List.replicate count ']')

/-- A record of an order with the given payload. -/
private def ordered (payload : Value) : DeliveryRecord :=
  .pending ⟨0⟩ Subscription.ofOrders.id "order.created" payload ⟨0⟩

/-- An array that takes all the room there is beside a body, signed while a secret is replaced. -/
theorem body_checks_nested : ∃ payload signature, read? (levels 126) = some payload ∧
    Checks .ofOrdersReplaced (canonical (enrich .ofOrdersReplaced (ordered payload) ⟨0⟩)) signature
      (enrich .ofOrdersReplaced (ordered payload) ⟨0⟩) := by
  have nested : (read? (levels 126)).any (fun payload =>
      payload.floats.isEmpty && decide (payload.nesting < greatestDepth)) = true := by
    decide +kernel
  obtain ⟨payload, found, holds⟩ := (Option.any_eq_true _ _).mp nested
  obtain ⟨none, room⟩ := Bool.and_eq_true_iff.mp holds
  have whole : (ordered payload).payload.floats = [] := List.isEmpty_iff.mp none
  obtain ⟨signature, received, _, checks, same⟩ := @body_checks .ofOrdersReplaced
    (ordered payload) ⟨0⟩ _ found (whole ▸ List.forall_mem_nil _) (.inr (of_decide_eq_true room))
    (by decide)
  exact ⟨payload, signature, found, same whole ▸ checks⟩

/-- A previous secret of which nobody knows when it was replaced. -/
private def undated : Subscription :=
  { Subscription.ofOrdersReplaced with rotatedAt := none }

/-- An array that is read on its own has no room in its body; and where secrets are in disorder, a
request with the signature of its body is not accepted, whatever the body. -/
theorem body_unchecked :
    (∃ payload, read? (levels 127) = some payload ∧ payload.floats = [] ∧
      read? (canonical (enrich .ofOrders (ordered payload) ⟨0⟩)) = none) ∧
    undated.secret.isEmpty = false ∧
    Inbound.isFresh Freshness.defaultTolerance ⟨0⟩ (some ['0']) = true ∧
    ∀ signature, Inbound.validate Freshness.defaultTolerance ⟨0⟩
      (enrich undated (ordered .null) ⟨0⟩) (some signature) (some ['0']) undated =
        .error (.malformedState .noRotationTime) := by
  have deepest : (read? (levels 127)).any (fun payload => payload.floats.isEmpty &&
      (read? (canonical (enrich .ofOrders (ordered payload) ⟨0⟩))).isNone) = true := by
    decide +kernel
  obtain ⟨payload, found, holds⟩ := (Option.any_eq_true _ _).mp deepest
  obtain ⟨none, unread⟩ := Bool.and_eq_true_iff.mp holds
  refine ⟨⟨payload, found, List.isEmpty_iff.mp none, Option.isNone_iff_eq_none.mp unread⟩,
    by decide, by decide, fun signature => rfl⟩

end HookRelay
