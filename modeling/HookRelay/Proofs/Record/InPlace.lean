import HookRelay.Delivery.Record

namespace HookRelay.DeliveryRecord

/-- Work on the one record there is, which keeps what has been written when the work fails. -/
abbrev InPlace := ExceptT InvalidTransition (StateM DeliveryRecord)

namespace InPlace

/-- Begins the next attempt, of which the number is returned. -/
def begin (maxAttempts : Nat) : InPlace Nat := do
  let record ← get
  if !record.canAttempt maxAttempts then throw ⟨record.status, .processing⟩
  modify fun record => { record with status := .processing }
  modify fun record => { record with attempts := min (record.attempts + 1) greatestAttempts }
  modify fun record => { record with completedAt := none }
  return (← get).attempts

def complete (target : DeliveryStatus) (code : Option Nat) (body : String) (now : Instant) :
    InPlace Unit := do
  let record ← get
  if record.status ≠ .processing then throw ⟨record.status, target⟩
  modify fun record => { record with status := target }
  modify fun record => { record with responseCode := code }
  modify fun record => { record with responseBody := some body }
  modify fun record => { record with completedAt := some now }

def succeed (code : Nat) (body : String) (now : Instant) : InPlace Unit :=
  complete .successful (some code) body now

def fail (code : Option Nat) (reason : String) (now : Instant) : InPlace Unit :=
  complete .failed code reason now

/-- What comes of a transition that is made in place, and the record that it leaves there. -/
def ending {Result : Type} (record : DeliveryRecord) (told : DeliveryRecord → Result) :
    Except InvalidTransition DeliveryRecord → Except InvalidTransition Result × DeliveryRecord
  | .ok next => (.ok (told next), next)
  | .error transition => (.error transition, record)

theorem run_get_bind {Result : Type} {next : DeliveryRecord → InPlace Result}
    {record : DeliveryRecord} :
    (get >>= next).run.run record = (next record).run.run record := rfl

/-- Field by field or all at once, an attempt begins in the same way. -/
theorem run_begin (record : DeliveryRecord) (maxAttempts : Nat) :
    (begin maxAttempts).run.run record =
      ending record (·.attempts) (record.beginAttempt maxAttempts) := by
  rw [begin, run_get_bind, beginAttempt]
  cases record.canAttempt maxAttempts with
  | true => rfl
  | false => rfl

theorem run_complete (record : DeliveryRecord) (target : DeliveryStatus) (code : Option Nat)
    (body : String) (now : Instant) : (complete target code body now).run.run record =
      ending record (fun _ => ()) (record.complete target code body now) := by
  rw [complete, run_get_bind, DeliveryRecord.complete]
  by_cases flight : record.status = .processing
  · rw [if_pos flight, if_neg (not_not_intro flight)]
    rfl
  · rw [if_neg flight, if_pos flight]
    rfl

end InPlace

end HookRelay.DeliveryRecord
