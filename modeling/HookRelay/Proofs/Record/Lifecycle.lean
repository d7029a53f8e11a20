import HookRelay.Proofs.Record.InPlace

/-!
The life of a delivery record: any sequence of transitions is asked of it, each with whatever limit on
attempts is in force by then. A transition that is refused leaves the record alone.
-/
namespace HookRelay

/-- A transition that is asked of a record. -/
inductive RecordCall where
  | begin (limit : UInt32)
  | succeed (code : Nat) (body : String) (now : Instant)
  | fail (code : Option Nat) (reason : String) (now : Instant)

namespace RecordCall

open DeliveryRecord

def target : RecordCall → DeliveryStatus
  | begin _ => .processing
  | succeed .. => .successful
  | fail .. => .failed

/-- The limit on attempts that goes with a call; ends of attempts need none. -/
def limit : RecordCall → Nat
  | begin limit => limit.toNat
  | _ => 0

/-- The call as it is made of a record in its place. -/
def perform : RecordCall → InPlace Unit
  | begin limit => do
    let _ ← InPlace.begin limit.toNat
  | succeed code body now => InPlace.succeed code body now
  | fail code reason now => InPlace.fail code reason now

/-- What comes of a call, and the record that it leaves. -/
def run (call : RecordCall) (record : DeliveryRecord) :
    Except InvalidTransition Unit × DeliveryRecord :=
  call.perform.run.run record

def answer : RecordCall → DeliveryRecord → Except InvalidTransition DeliveryRecord
  | begin limit, record => record.beginAttempt limit.toNat
  | succeed code body now, record => record.succeed code body now
  | fail code reason now, record => record.fail code reason now

/-- Whether a call begins an attempt of a record. -/
def begins : RecordCall → DeliveryRecord → Bool
  | begin limit, record => ((begin limit).run record).1.isOk
  | _, _ => false

/-- The greatest limit on attempts among calls. -/
def greatestLimit (calls : List RecordCall) : Nat :=
  calls.foldr (fun call most => max call.limit most) 0

end RecordCall

namespace DeliveryRecord

def after (record : DeliveryRecord) (call : RecordCall) : DeliveryRecord := (call.run record).2

def afterAll (record : DeliveryRecord) (calls : List RecordCall) : DeliveryRecord :=
  calls.foldl after record

def begun (record : DeliveryRecord) : List RecordCall → Nat
  | [] => 0
  | call :: rest => (call.begins record).toNat + (record.after call).begun rest

structure SameDelivery (first second : DeliveryRecord) : Prop where
  id : second.id = first.id
  subscriptionId : second.subscriptionId = first.subscriptionId
  eventType : second.eventType = first.eventType
  payload : second.payload = first.payload
  createdAt : second.createdAt = first.createdAt

theorem SameDelivery.refl (record : DeliveryRecord) : SameDelivery record record :=
  ⟨rfl, rfl, rfl, rfl, rfl⟩

theorem SameDelivery.trans {first second third : DeliveryRecord}
    (earlier : SameDelivery first second) (later : SameDelivery second third) :
    SameDelivery first third :=
  ⟨later.id.trans earlier.id, later.subscriptionId.trans earlier.subscriptionId,
    later.eventType.trans earlier.eventType, later.payload.trans earlier.payload,
    later.createdAt.trans earlier.createdAt⟩

/-- A record whose other fields are as its status has them. -/
structure Coherent (record : DeliveryRecord) : Prop where
  pending : record.status = .pending ↔ record.attempts = 0
  blank : record.status = .pending →
    record.responseCode = none ∧ record.responseBody = none ∧ record.completedAt = none
  flying : record.status = .processing → record.completedAt = none
  ended : record.status = .successful ∨ record.status = .failed →
    record.responseBody.isSome = true ∧ record.completedAt.isSome = true

theorem coherent_pending (id owner : Uuid) (eventType : String) (payload : Json.Value)
    (now : Instant) : (pending id owner eventType payload now).Coherent where
  pending := ⟨fun _ => rfl, fun _ => rfl⟩
  blank _ := ⟨rfl, rfl, rfl⟩
  flying _ := rfl
  ended finished := by rcases finished with never | never <;> cases never

end DeliveryRecord

open DeliveryRecord

variable {record next : DeliveryRecord} {call : RecordCall}

/-- Whether a record is changed in its place or a new one is made of it comes to the same. -/
theorem RecordCall.run_eq (call : RecordCall) (record : DeliveryRecord) :
    call.run record = InPlace.ending record (fun _ => ()) (call.answer record) := by
  cases call with
  | begin limit =>
    show (InPlace.begin limit.toNat >>= fun _ => pure ()).run.run record = _
    rw [ExceptT.run_bind, StateT.run_bind, InPlace.run_begin, answer]
    cases record.beginAttempt limit.toNat with
    | ok begun => rfl
    | error transition => rfl
  | succeed code body now => exact InPlace.run_complete record .successful (some code) body now
  | fail code reason now => exact InPlace.run_complete record .failed code reason now

theorem RecordCall.run_of_ok (granted : call.answer record = .ok next) :
    call.run record = (.ok (), next) := by
  rw [run_eq, granted]
  rfl

theorem RecordCall.run_of_error {transition : InvalidTransition}
    (refused : call.answer record = .error transition) :
    call.run record = (.error transition, record) := by
  rw [run_eq, refused]
  rfl

/-- A call that is granted begins an attempt that its limit leaves room for, or ends the one in
flight. -/
theorem RecordCall.answer_eq_ok (granted : call.answer record = .ok next) :
    (call.begins record = true ∧ record.canAttempt call.limit = true ∧ next = { record with
      status := .processing
      attempts := min (record.attempts + 1) greatestAttempts
      completedAt := none }) ∨
    (call.begins record = false ∧ (call.target = .successful ∨ call.target = .failed) ∧
      record.status = .processing ∧ ∃ code body now, next = { record with
        status := call.target
        responseCode := code
        responseBody := some body
        completedAt := some now }) := by
  cases call with
  | begin limit =>
    obtain ⟨able, rfl⟩ := beginAttempt_eq_ok granted
    refine .inl ⟨?_, able, rfl⟩
    rw [begins, run_of_ok granted]
    rfl
  | succeed code body now =>
    obtain ⟨flight, rfl⟩ := succeed_eq_ok granted
    exact .inr ⟨rfl, .inl rfl, flight, _, _, _, rfl⟩
  | fail code reason now =>
    obtain ⟨flight, rfl⟩ := fail_eq_ok granted
    exact .inr ⟨rfl, .inr rfl, flight, _, _, _, rfl⟩

/-- A call that is refused says from where to where, and begins nothing. -/
theorem RecordCall.answer_eq_error {transition : InvalidTransition}
    (refused : call.answer record = .error transition) :
    transition = ⟨record.status, call.target⟩ ∧ call.begins record = false := by
  cases call with
  | begin limit =>
    obtain ⟨_, named⟩ := beginAttempt_eq_error refused
    refine ⟨named, ?_⟩
    rw [begins, run_of_error refused]
    rfl
  | succeed code body now => exact ⟨(succeed_eq_error refused).2, rfl⟩
  | fail code reason now => exact ⟨(fail_eq_error refused).2, rfl⟩

theorem RecordCall.limit_le (call : RecordCall) : call.limit ≤ greatestAttempts := by
  cases call with
  | begin limit => exact Nat.le_of_lt_succ limit.toNat_lt
  | succeed code body now => exact Nat.zero_le _
  | fail code reason now => exact Nat.zero_le _

namespace DeliveryRecord

/-- What an attempt may begin from: nothing begun yet, or a failure within the limit. -/
theorem Coherent.attempts_lt {limit : Nat} (coherent : record.Coherent)
    (able : record.canAttempt limit = true) : record.attempts < max 1 limit := by
  unfold canAttempt at able
  split at able
  · rename_i fresh
    rw [coherent.pending.mp fresh]
    exact Nat.lt_of_lt_of_le Nat.zero_lt_one (Nat.le_max_left 1 limit)
  · exact Nat.lt_of_lt_of_le (of_decide_eq_true able) (Nat.le_max_right 1 limit)
  · cases able
  · cases able

/-- What one call does to a record. -/
structure Steps (record : DeliveryRecord) (call : RecordCall) (next : DeliveryRecord) : Prop where
  same : SameDelivery record next
  coherent : next.Coherent
  counted : next.attempts = record.attempts + (call.begins record).toNat
  bounded : next.attempts ≤ max record.attempts (max 1 call.limit)
  final : record.status = .successful → next = record

private theorem Coherent.steps_begin (coherent : record.Coherent) (begins : call.begins record = true)
    (able : record.canAttempt call.limit = true) :
    record.Steps call { record with
      status := .processing
      attempts := min (record.attempts + 1) greatestAttempts
      completedAt := none } := by
  have room := coherent.attempts_lt able
  -- Limits are of thirty-two bits like the count, which therefore never stops at its greatest.
  have counted : min (record.attempts + 1) greatestAttempts = record.attempts + 1 := by
    have limited := call.limit_le
    simp only [greatestAttempts] at limited ⊢
    omega
  refine ⟨⟨rfl, rfl, rfl, rfl, rfl⟩, ⟨?_, nofun, fun _ => rfl, ?_⟩, ?_, ?_, ?_⟩
  · constructor
    · nofun
    · intro blank
      exact absurd (counted.symm.trans blank) (Nat.succ_ne_zero _)
  · rintro (never | never)
    · cases never
    · cases never
  · rw [begins]
    exact counted
  · exact Nat.le_trans (Nat.le_of_eq counted) (Nat.le_trans room (Nat.le_max_right _ _))
  · intro successful
    rw [canAttempt, successful] at able
    cases able

private theorem Coherent.steps_end (coherent : record.Coherent) (ends : call.begins record = false)
    (target : call.target = .successful ∨ call.target = .failed)
    (flight : record.status = .processing) (code : Option Nat) (body : String) (now : Instant) :
    record.Steps call { record with
      status := call.target
      responseCode := code
      responseBody := some body
      completedAt := some now } := by
  have begun : record.attempts ≠ 0 := by
    intro blank
    cases flight.symm.trans (coherent.pending.mpr blank)
  have landed : call.target ≠ .pending ∧ call.target ≠ .processing := by
    rcases target with target | target
    · rw [target]
      exact ⟨nofun, nofun⟩
    · rw [target]
      exact ⟨nofun, nofun⟩
  refine ⟨⟨rfl, rfl, rfl, rfl, rfl⟩, ⟨?_, ?_, ?_, fun _ => ⟨rfl, rfl⟩⟩, ?_,
    Nat.le_max_left _ _, ?_⟩
  · exact ⟨fun fresh => absurd fresh landed.1, fun blank => absurd blank begun⟩
  · exact fun fresh => absurd fresh landed.1
  · exact fun flying => absurd flying landed.2
  · rw [ends]
    rfl
  · intro successful
    cases flight.symm.trans successful

theorem Coherent.steps (coherent : record.Coherent) (call : RecordCall) :
    record.Steps call (record.after call) := by
  cases answered : call.answer record with
  | error transition =>
    rw [after, RecordCall.run_of_error answered]
    refine ⟨.refl record, coherent, ?_, Nat.le_max_left _ _, fun _ => rfl⟩
    rw [(RecordCall.answer_eq_error answered).2]
    rfl
  | ok next =>
    rw [after, RecordCall.run_of_ok answered]
    rcases RecordCall.answer_eq_ok answered with
      ⟨begins, able, rfl⟩ | ⟨ends, target, flight, code, body, now, rfl⟩
    · exact coherent.steps_begin begins able
    · exact coherent.steps_end ends target flight code body now

theorem Coherent.steps_of_ok (coherent : record.Coherent) (granted : call.answer record = .ok next) :
    record.Steps call next := by
  have steps := coherent.steps call
  rwa [after, RecordCall.run_of_ok granted] at steps

theorem afterAll_cons (record : DeliveryRecord) (call : RecordCall) (rest : List RecordCall) :
    record.afterAll (call :: rest) = (record.after call).afterAll rest := List.foldl_cons ..

theorem afterAll_concat (record : DeliveryRecord) (calls : List RecordCall) (call : RecordCall) :
    record.afterAll (calls ++ [call]) = (record.afterAll calls).after call :=
  List.foldl_append

/-- A coherent record stays one and the same delivery, with each of its attempts counted. -/
theorem Coherent.run (coherent : record.Coherent) (calls : List RecordCall) :
    SameDelivery record (record.afterAll calls) ∧ (record.afterAll calls).Coherent ∧
      (record.afterAll calls).attempts = record.attempts + record.begun calls ∧
      (record.afterAll calls).attempts ≤
        max record.attempts (max 1 (RecordCall.greatestLimit calls)) := by
  induction calls generalizing record with
  | nil => exact ⟨.refl record, coherent, rfl, Nat.le_max_left _ _⟩
  | cons call rest ih =>
    have steps := coherent.steps call
    obtain ⟨same, kept, counted, bounded⟩ := ih steps.coherent
    rw [afterAll_cons]
    refine ⟨steps.same.trans same, kept, ?_, ?_⟩
    · rw [counted, steps.counted, begun, Nat.add_assoc]
    · have first := steps.bounded
      simp only [RecordCall.greatestLimit, List.foldr_cons] at bounded ⊢
      omega

/-- A record that was accepted by its receiver never changes again. -/
theorem Coherent.afterAll_of_successful (coherent : record.Coherent)
    (successful : record.status = .successful) (calls : List RecordCall) :
    record.afterAll calls = record := by
  induction calls with
  | nil => rfl
  | cons call rest ih =>
    rw [afterAll_cons, (coherent.steps call).final successful]
    exact ih

/-- What any sequence of transitions makes of a new record. -/
theorem lifecycle (id owner : Uuid) (eventType : String) (payload : Json.Value) (created : Instant)
    (calls : List RecordCall) :
    let first := pending id owner eventType payload created
    let record := first.afterAll calls
    SameDelivery first record ∧
      record.attempts = first.begun calls ∧
      record.attempts ≤ max 1 (RecordCall.greatestLimit calls) ∧
      record.Coherent ∧
      (record.status = .successful → ∀ later, record.afterAll later = record) ∧
      ∀ call : RecordCall,
        (∀ next, call.run record = (.ok (), next) →
          next.attempts = record.attempts + (call.begins record).toNat) ∧
        ∀ transition left, call.run record = (.error transition, left) →
          left = record ∧ transition = ⟨record.status, call.target⟩ := by
  intro first record
  have begins := coherent_pending id owner eventType payload created
  obtain ⟨same, coherent, counted, bounded⟩ := begins.run calls
  refine ⟨same, counted.trans (Nat.zero_add _), ?_, coherent,
    fun successful => coherent.afterAll_of_successful successful, fun call => ⟨?_, ?_⟩⟩
  · exact Nat.le_trans bounded (Nat.max_le.mpr ⟨Nat.zero_le _, Nat.le_refl _⟩)
  · intro next ran
    have counted := (coherent.steps call).counted
    rwa [after, ran] at counted
  · intro transition left ran
    cases answered : call.answer record with
    | ok next => cases (RecordCall.run_of_ok answered).symm.trans ran
    | error named =>
      cases (RecordCall.run_of_error answered).symm.trans ran
      exact ⟨rfl, (RecordCall.answer_eq_error answered).1⟩

/-- A first attempt begins under any limit; one that begins nothing changes nothing. -/
example : ((pending ⟨0⟩ ⟨1⟩ "order.created" .null ⟨0⟩).afterAll
    [.begin 0, .fail none "timed out" ⟨1⟩, .begin 0, .begin 1]).attempts = 1 := rfl

/-- A record that calls with no greater limit have made of a new one. -/
def ReachableWithin (most : Nat) (record : DeliveryRecord) : Prop :=
  ∃ id owner eventType payload created calls, (∀ call ∈ calls, call.limit ≤ most) ∧
    record = (pending id owner eventType payload created).afterAll calls

namespace ReachableWithin

variable {most : Nat}

theorem of_pending (most : Nat) (id owner : Uuid) (eventType : String) (payload : Json.Value)
    (created : Instant) : ReachableWithin most (pending id owner eventType payload created) :=
  ⟨id, owner, eventType, payload, created, [], nofun, rfl⟩

theorem answered (reachable : ReachableWithin most record) (limited : call.limit ≤ most)
    (granted : call.answer record = .ok next) : ReachableWithin most next := by
  obtain ⟨id, owner, eventType, payload, created, calls, within, rfl⟩ := reachable
  refine ⟨id, owner, eventType, payload, created, calls ++ [call], fun other member => ?_, ?_⟩
  · rcases List.mem_append.mp member with earlier | last
    · exact within other earlier
    · rw [List.mem_singleton.mp last]
      exact limited
  · rw [afterAll_concat, after, RecordCall.run_of_ok granted]

theorem coherent (reachable : ReachableWithin most record) : record.Coherent := by
  obtain ⟨id, owner, eventType, payload, created, calls, _, rfl⟩ := reachable
  exact ((coherent_pending id owner eventType payload created).run calls).2.1

theorem attempts_le (reachable : ReachableWithin most record) : record.attempts ≤ max 1 most := by
  obtain ⟨id, owner, eventType, payload, created, calls, within, rfl⟩ := reachable
  have greatest : RecordCall.greatestLimit calls ≤ most := by
    clear created
    induction calls with
    | nil => exact Nat.zero_le _
    | cons call rest ih =>
      exact Nat.max_le.mpr ⟨within call List.mem_cons_self,
        ih fun other member => within other (List.mem_cons_of_mem _ member)⟩
  have bounded := ((coherent_pending id owner eventType payload created).run calls).2.2.2
  refine Nat.le_trans bounded (Nat.max_le.mpr ⟨Nat.zero_le _, Nat.max_le.mpr ⟨?_, ?_⟩⟩)
  · exact Nat.le_max_left _ _
  · exact Nat.le_trans greatest (Nat.le_max_right _ _)

end ReachableWithin

end DeliveryRecord

end HookRelay
