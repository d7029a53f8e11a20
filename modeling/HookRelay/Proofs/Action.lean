import HookRelay.Proofs.Site

namespace HookRelay

open HookRelay.Action

/-- A call on one delivery has come to a site: what is held about the delivery is known there, and so
is a time that has passed. -/
structure Conditions.Stands (conditions : Conditions) (id : Uuid) (since : Instant)
    (dossier : Dossier) (site : Site) : Prop where
  dossier : site.dossier id = dossier
  passed : conditions.passes since site.time
  meets : conditions.Meets site

variable {conditions : Conditions} {own : Uuid → Prop} {id : Uuid} {since : Instant}
  {dossier : Dossier} {site : Site} {α β : Type}

theorem Conditions.Stands.rebase (stands : conditions.Stands id since dossier site) :
    conditions.Stands id site.time dossier site :=
  ⟨stands.dossier, conditions.passes_refl _, stands.meets⟩

theorem Conditions.Stands.drift {met : Site} (stands : conditions.Stands id since dossier site)
    (drift : (conditions.around own).drift site met) (mine : own id) :
    conditions.Stands id since dossier met where
  dossier := (drift.1 id mine).trans stands.dossier
  passed := conditions.passes_trans _ _ _ stands.passed drift.2.1
  meets := drift.2.2 stands.meets

theorem Conditions.Stands.turn {after : Site} {effect : Effect} {reply : effect.Reply}
    (stands : conditions.Stands id since dossier site)
    (turn : (conditions.around own).turn effect site reply after) :
    conditions.Stands id since (after.dossier id) after := by
  refine ⟨rfl, ?_, turn.2 stands.meets⟩
  rw [Conditions.turn_time turn.1]
  exact stands.passed

theorem result_perform_bind (effect : Effect) (next : effect.Reply → Action α) :
    (perform effect >>= next).result = .step effect fun reply => (next reply).result := rfl

theorem result_lift (program : Program Relay α) :
    Action.result (ExceptT.lift program) = program >>= fun value => .done (.ok value) := rfl

theorem result_lift_bind (program : Program Relay β) (next : β → Action α) :
    (ExceptT.lift program >>= next : Action α).result =
      program >>= fun value => (next value).result := by
  show (program.bind fun value => .done (.ok value)).bind (ExceptT.bindCont next) =
    program.bind fun value => (next value).result
  induction program with
  | done value => rfl
  | step op rest ih =>
    show Program.step _ _ = Program.step _ _
    congr 1
    funext reply
    exact ih reply

theorem result_store_bind (call : StoreCall) (next : call.Reply → Action α) :
    (store call >>= next).result = .step (.store call) fun reply =>
      match (reply : Except StoreError call.Reply) with
      | .ok value => (next value).result
      | .error error => .done (.error (.ofStore error)) := by
  show Program.step _ _ = _
  congr 1
  funext reply
  cases reply <;> rfl

theorem result_queue_bind (call : QueueCall) (next : call.Reply → Action α) :
    (queue call >>= next).result = .step (.queue call) fun reply =>
      match (reply : Except DeliveryError call.Reply) with
      | .ok value => (next value).result
      | .error error => .done (.error error) := by
  show Program.step _ _ = _
  congr 1
  funext reply
  cases reply <;> rfl

theorem result_ofExcept_bind (value : Except DeliveryError β) (next : β → Action α) :
    ((ofExcept value : Action β) >>= next).result = match value with
      | .ok value => (next value).result
      | .error error => .done (.error error) := by
  cases value <;> rfl

theorem result_transition_bind (moved : Except InvalidTransition DeliveryRecord)
    (next : DeliveryRecord → Action α) :
    (Dispatch.transition moved >>= next).result = match moved with
      | .ok record => (next record).result
      | .error error => .done (.error (.ofStore (.invalidTransition error))) := by
  cases moved <;> rfl

theorem result_count_bind (subscription : Subscription) (counter : Counter) (now : Instant)
    (next : Unit → Action α) :
    (Dispatch.count subscription counter now >>= next).result =
      .step (.store (.increment subscription.id counter now)) fun _ => (next ()).result := rfl

theorem result_decide_bind (policy : RetryPolicy) (attempts maxAttempts : Nat)
    (next : RetryPolicy.Decision → Action α) :
    (Dispatch.decide policy attempts maxAttempts >>= next).result =
      .step .drawJitter fun draw => match policy.decide? attempts maxAttempts draw with
        | some decision => (next decision).result
        | none => .step .halt nofun := by
  show Program.step _ _ = _
  congr 1
  funext draw
  show Program.bind (match policy.decide? attempts maxAttempts draw with
    | some decision => (pure decision : Action RetryPolicy.Decision)
    | none => halt) (ExceptT.bindCont next) = _
  cases policy.decide? attempts maxAttempts draw with
  | some decision => rfl
  | none =>
    show Program.step _ _ = _
    congr 1
    funext never
    exact never.elim

end HookRelay
