import HookRelay.Json.Writer
import HookRelay.Time.Calendar
import HookRelay.Uuid

namespace HookRelay

inductive DeliveryStatus where
  | pending
  | processing
  | successful
  | failed
deriving DecidableEq, Repr

namespace DeliveryStatus

def text : DeliveryStatus → String
  | pending => "pending"
  | processing => "processing"
  | successful => "successful"
  | failed => "failed"

def read? (text : String) : Option DeliveryStatus :=
  [pending, processing, successful, failed].find? fun status => status.text = text

end DeliveryStatus

/-- A transition that the current status does not allow. -/
structure InvalidTransition where
  source : DeliveryStatus
  target : DeliveryStatus
deriving DecidableEq, Repr

structure DeliveryRecord where
  id : Uuid
  subscriptionId : Uuid
  eventType : String
  payload : Json.Value
  status : DeliveryStatus
  attempts : Nat
  responseCode : Option Nat
  responseBody : Option String
  createdAt : Instant
  completedAt : Option Instant

namespace DeliveryRecord

/-- Attempts are counted in thirty-two bits and stop at the greatest count. -/
def greatestAttempts : Nat := 0xFFFFFFFF

def pending (id subscriptionId : Uuid) (eventType : String) (payload : Json.Value) (now : Instant) :
    DeliveryRecord where
  id := id
  subscriptionId := subscriptionId
  eventType := eventType
  payload := payload
  status := .pending
  attempts := 0
  responseCode := none
  responseBody := none
  createdAt := now
  completedAt := none

def canAttempt (record : DeliveryRecord) (maxAttempts : Nat) : Bool :=
  match record.status with
  | .pending => true
  | .failed => record.attempts < maxAttempts
  | .processing => false
  | .successful => false

/-- Whether no further attempt can ever begin when `maxAttempts` are allowed. -/
def isTerminal (record : DeliveryRecord) (maxAttempts : Nat) : Bool :=
  match record.status with
  | .successful => true
  | .failed => maxAttempts ≤ record.attempts
  | .pending => false
  | .processing => false

/-- Begins the next attempt, whose number is then `attempts`; the last answer stays until it is
replaced. -/
def beginAttempt (record : DeliveryRecord) (maxAttempts : Nat) :
    Except InvalidTransition DeliveryRecord :=
  if record.canAttempt maxAttempts then
    .ok { record with
      status := .processing
      attempts := min (record.attempts + 1) greatestAttempts
      completedAt := none }
  else .error ⟨record.status, .processing⟩

def complete (record : DeliveryRecord) (target : DeliveryStatus) (code : Option Nat)
    (body : String) (now : Instant) : Except InvalidTransition DeliveryRecord :=
  if record.status = .processing then
    .ok { record with
      status := target
      responseCode := code
      responseBody := some body
      completedAt := some now }
  else .error ⟨record.status, target⟩

/-- Ends the attempt in flight with an answer that accepts the delivery. -/
def succeed (record : DeliveryRecord) (code : Nat) (body : String) (now : Instant) :
    Except InvalidTransition DeliveryRecord :=
  record.complete .successful (some code) body now

/-- Ends the attempt in flight with any other answer, or none. -/
def fail (record : DeliveryRecord) (code : Option Nat) (reason : String) (now : Instant) :
    Except InvalidTransition DeliveryRecord :=
  record.complete .failed code reason now

/-- An attempt may begin when none is in flight and the record is not terminal. -/
theorem canAttempt_iff (record : DeliveryRecord) (maxAttempts : Nat) :
    record.canAttempt maxAttempts = true ↔
      record.status ≠ .processing ∧ record.isTerminal maxAttempts = false := by
  unfold canAttempt isTerminal
  cases record.status with
  | pending => simp
  | processing => simp
  | successful => simp
  | failed => simp

theorem beginAttempt_eq_ok {record begun : DeliveryRecord} {maxAttempts : Nat}
    (begins : record.beginAttempt maxAttempts = .ok begun) :
    record.canAttempt maxAttempts = true ∧ begun = { record with
      status := .processing
      attempts := min (record.attempts + 1) greatestAttempts
      completedAt := none } := by
  unfold beginAttempt at begins
  split at begins
  · rename_i allowed
    exact ⟨allowed, (Except.ok.inj begins).symm⟩
  · cases begins

theorem beginAttempt_of_canAttempt {record : DeliveryRecord} {maxAttempts : Nat}
    (able : record.canAttempt maxAttempts = true) :
    ∃ begun, record.beginAttempt maxAttempts = .ok begun := by
  simp [beginAttempt, able]

theorem beginAttempt_eq_error {record : DeliveryRecord} {maxAttempts : Nat}
    {transition : InvalidTransition} (refused : record.beginAttempt maxAttempts = .error transition) :
    record.canAttempt maxAttempts = false ∧ transition = ⟨record.status, .processing⟩ := by
  unfold beginAttempt at refused
  split at refused
  · cases refused
  · rename_i unable
    exact ⟨eq_false_of_ne_true unable, (Except.error.inj refused).symm⟩

private theorem complete_eq_ok {record completed : DeliveryRecord} {target : DeliveryStatus}
    {code : Option Nat} {body : String} {now : Instant}
    (ends : record.complete target code body now = .ok completed) :
    record.status = .processing ∧ completed = { record with
      status := target
      responseCode := code
      responseBody := some body
      completedAt := some now } := by
  unfold complete at ends
  split at ends
  · rename_i flight
    exact ⟨flight, (Except.ok.inj ends).symm⟩
  · cases ends

private theorem complete_eq_error {record : DeliveryRecord} {target : DeliveryStatus}
    {code : Option Nat} {body : String} {now : Instant} {transition : InvalidTransition}
    (refused : record.complete target code body now = .error transition) :
    record.status ≠ .processing ∧ transition = ⟨record.status, target⟩ := by
  unfold complete at refused
  split at refused
  · cases refused
  · rename_i landed
    exact ⟨landed, (Except.error.inj refused).symm⟩

theorem succeed_eq_ok {record succeeded : DeliveryRecord} {code : Nat} {body : String}
    {now : Instant} (ends : record.succeed code body now = .ok succeeded) :
    record.status = .processing ∧ succeeded = { record with
      status := .successful
      responseCode := some code
      responseBody := some body
      completedAt := some now } := complete_eq_ok ends

theorem fail_eq_ok {record failed : DeliveryRecord} {code : Option Nat} {reason : String}
    {now : Instant} (ends : record.fail code reason now = .ok failed) :
    record.status = .processing ∧ failed = { record with
      status := .failed
      responseCode := code
      responseBody := some reason
      completedAt := some now } := complete_eq_ok ends

theorem succeed_eq_error {record : DeliveryRecord} {code : Nat} {body : String} {now : Instant}
    {transition : InvalidTransition} (refused : record.succeed code body now = .error transition) :
    record.status ≠ .processing ∧ transition = ⟨record.status, .successful⟩ :=
  complete_eq_error refused

theorem fail_eq_error {record : DeliveryRecord} {code : Option Nat} {reason : String}
    {now : Instant} {transition : InvalidTransition}
    (refused : record.fail code reason now = .error transition) :
    record.status ≠ .processing ∧ transition = ⟨record.status, .failed⟩ :=
  complete_eq_error refused

theorem fail_of_processing {record : DeliveryRecord} (flight : record.status = .processing)
    (code : Option Nat) (reason : String) (now : Instant) :
    ∃ failed, record.fail code reason now = .ok failed := by
  simp [fail, complete, flight]

theorem succeed_of_processing {record : DeliveryRecord} (flight : record.status = .processing)
    (code : Nat) (body : String) (now : Instant) :
    ∃ succeeded, record.succeed code body now = .ok succeeded := by
  simp [succeed, complete, flight]

/-- A record of which a number of attempts have begun, each but the last of them failed with an
answer; there is no limit on attempts here. -/
def begunTimes (record : DeliveryRecord) (code : Nat) (body : String) (now : Instant) :
    Nat → DeliveryRecord
  | 0 => record
  | count + 1 =>
    let record := begunTimes record code body now count
    let record := (record.fail (some code) body now).toOption.getD record
    (record.beginAttempt greatestAttempts).toOption.getD record

def toJson (record : DeliveryRecord) : Json.Value :=
  .ofMembers [("id", .string record.id.text),
    ("subscription_id", .string record.subscriptionId.text),
    ("event_type", .string record.eventType), ("payload", record.payload),
    ("status", .string record.status.text), ("response_code", .ofOption .nat record.responseCode),
    ("response_body", .ofOption .string record.responseBody), ("attempts", .nat record.attempts),
    ("created_at", .string record.createdAt.text),
    ("completed_at", .ofOption (fun time => .string time.text) record.completedAt)]

end DeliveryRecord

end HookRelay
