import HookRelay.Proofs.Capture
import HookRelay.Proofs.Dispatch.Path
import HookRelay.Proofs.Sql.Saving

namespace HookRelay.Sql

open HookRelay.Dispatch

variable {ι : Type} {outside : Program.World Relay ι} {database : Database} {state : ι}
  {record begun ended : DeliveryRecord} {subscription : Subscription}

/-- The codes of answers have sixteen bits. -/
def IsCoded (answer : WireAnswer) : Prop := answer.code < 0x10000

/-- What comes back for a request: an answer, or a reason why there is none. -/
abbrev Reception := Except DeliveryError DeliveryResponse

namespace Reception

def text : Reception → String
  | .ok response => response.body
  | .error failure => Dispatch.failureText failure

def code? : Reception → Option Nat
  | .ok response => some response.code
  | .error failure => failure.statusCode?

def accepts : Reception → Bool
  | .ok response => response.isSuccess
  | .error _ => false

/-- A receiver's answer brings a null character where the bytes that are kept of it hold one. -/
theorem null_mem_text_iff {answer : WireAnswer} {body : Bytes}
    (bodied : Client.hasNoBody answer.code = false)
    (delivers : Capture.Delivers answer.chunks body) :
    '\x00' ∈ (text (.ok (Client.response answer))).toList ↔ 0 ∈ Capture.kept body := by
  have answered := delivers.readsOff.answered answer.code answer.location bodied
  rw [show Client.response answer = _ from answered, text, String.toList_ofList]
  exact Capture.null_mem_text_iff body

theorem null_not_mem_text {given : WireAnswer → Prop} {failure : DeliveryError}
    (returns : Client.Returns given (.error failure)) :
    '\x00' ∉ (text (.error failure)).toList := by
  cases returns with
  | timedOut seconds =>
    exact (Text.Visible.number (by decide) (by decide) seconds :
      Text.Visible ("request timeout after " ++ toString seconds ++ "s").toList).null_not_mem
  | @failed reason visible =>
    have whole : Text.Visible ("network connection failed: " ++ reason).toList := by
      rw [String.toList_append]
      exact Text.Visible.append_iff.mpr ⟨by decide, visible⟩
    exact whole.null_not_mem

theorem code_lt {reception : Reception} (returns : Client.Returns IsCoded reception) :
    ∀ code ∈ reception.code?, code < 0x10000 := by
  cases returns with
  | answered coded =>
    rintro code ⟨⟩
    exact coded
  | timedOut seconds => nofun
  | failed visible => nofun

end Reception

/-- The record of an attempt in flight once it is known what came back. -/
def closed (begun : DeliveryRecord) (reception : Reception) (now : Instant) : DeliveryRecord :=
  { begun with
    status := if reception.accepts then .successful else .failed
    responseCode := reception.code?
    responseBody := some reception.text
    completedAt := some now }

variable {policy : RetryPolicy} {reception : Reception} {now : Instant} {point : Point}
  {program : Program Relay (Except DeliveryError Outcome)}

/-- Whoever is outside tells the time, and lets the client's requests come to their end. -/
structure Responsive (outside : Program.World Relay ι) : Prop where
  tells : ∀ state, ∃ (now : Instant) (next : ι), outside .now state = (some now, next)
  returns : ∀ (request : DeliveryRequest) (state : ι), ∃ (reception : Reception) (next : ι),
    outside (.send request) state = (some reception, next) ∧ Client.Returns IsCoded reception

/-- A clock, and a client on a wire. -/
def online (clock : ι → Instant) (settings : ClientSettings) (wire : Program.World Wire ι) :
    Program.World Relay ι
  | .now, state => (some (clock state), state)
  | .send request, state => (Client.deliver settings request).run wire state
  | _, state => (none, state)

/-- A wire on which every exchange comes to its end will do. -/
theorem responsive_online (clock : ι → Instant) (settings : ClientSettings)
    {wire : Program.World Wire ι}
    (ends : ∀ request state, ∃ exchange after, wire request state = (some exchange, after))
    (coded : ∀ request state answer after, wire request state = (some (.answered answer), after) →
      IsCoded answer) : Responsive (online clock settings wire) where
  tells state := ⟨clock state, state, rfl⟩
  returns request state := by
    have finishes (program : Program Wire Reception) (state : ι) :
        ∃ reception after, program.run wire state = (some reception, after) := by
      induction program generalizing state with
      | done reception => exact ⟨reception, state, rfl⟩
      | step op next ih =>
        obtain ⟨exchange, after, exchanged⟩ := ends op state
        rw [Program.run_step exchanged]
        exact ih exchange after
    obtain ⟨reception, after, ran⟩ := finishes (Client.deliver settings request) state
    exact ⟨reception, after, ran, Client.returns_of_deliver coded ran⟩

/-- A delivery is held with its subscription, and has been attempted under limits in range. -/
structure Held (database : Database) (record : DeliveryRecord) (subscription : Subscription) :
    Prop where
  found : database.Finds record
  owned : Subscriptions.repository.Finds .strict database subscription
  owner : record.subscriptionId = subscription.id
  plain : Plain record
  reachable : record.ReachableWithin 0x7FFFFFFF

theorem Held.fits (held : Held database record subscription) : Deliveries.Fits record :=
  held.reachable.attempts_le

/-- Where an attempt in flight has led: its end is on record, unless what came back has a null
character. -/
structure Ends (begun : DeliveryRecord) (subscription : Subscription) (reception : Reception)
    (ending : Option (Except DeliveryError Outcome) × Database × ι) : Prop where
  recorded : '\x00' ∉ reception.text.toList →
    ∃ now, ending.2.1.Finds (closed begun reception now)
  lost : '\x00' ∈ reception.text.toList →
    ending.1 = some (.error (.ofStore nullRefusal)) ∧ Held ending.2.1 begun subscription

/-- How the work may go on once the end of an attempt is on record. -/
def Settled : Point → Prop
  | .succeeded _ | .credited _ | .failed _ | .charged _ | .retrying .. | .retried .. | .exhausted _
  | .undecided | .ended _ => True
  | _ => False

theorem settled_of_goes {point next : Point} {effect : Effect} {reply : effect.Reply}
    (goes : Point.Goes policy point effect reply next) (settled : Settled point) : Settled next := by
  cases goes with
  | credits | delivers | charges | hesitates | retries | exhausts | unqueued | queues | announces
  | reports => trivial
  | _ => exact settled.elim

/-- Then results are counted, and no records changed. -/
theorem deliveries_of_settled (governs : point.Governs policy program) (settled : Settled point) :
    (program.run (relay outside) (database, state)).2.1.deliveries = database.deliveries := by
  let kept (left : Database × ι) : Prop := left.1.deliveries = database.deliveries
  have start : kept (database, state) := rfl
  refine governs.run_keeps settled start (fun _ _ _ _ => settled_of_goes) ?_
  intro point effect ⟨left, state⟩ does settled kept
  cases point with
  | succeeded success => cases does; exact (ask_increment left _ _ _).trans kept
  | failed failure => cases does; exact (ask_increment left _ _ _).trans kept
  | credited success => cases does; exact kept
  | charged failure => cases does; exact kept
  | retrying failure delay => cases does; exact kept
  | retried failure delay => cases does; exact kept
  | exhausted failure => cases does; exact kept
  | undecided => cases does; exact kept
  | ended result => cases does
  | _ => exact settled.elim

/-- The end of an attempt is saved, and the work goes on if it is taken. -/
structure Saves (policy : RetryPolicy) (ended : DeliveryRecord) (point : Point) : Prop where
  refused : ∀ error, Point.Goes policy point (.store (.saveDelivery ended)) (.error error)
    (.ended (.error (.ofStore error)))
  taken : ∃ next, Point.Goes policy point (.store (.saveDelivery ended)) (.ok ()) next ∧
    Settled next

theorem saves_accepted (success : Success) : Saves policy success.succeeded (.accepted success) :=
  ⟨.unsucceeded, _, .succeeds, trivial⟩

theorem saves_failing (failure : Failure) : Saves policy failure.failed (.failing failure) :=
  ⟨.unfailed, _, .fails, trivial⟩

theorem Saves.run_of_plain (saves : Saves policy ended point)
    (governs : point.Governs policy program) (found : database.Finds begun)
    (same : begun.SameDelivery ended) (fits : Deliveries.Fits ended)
    (coded : Deliveries.Coded ended) (plain : Plain ended) :
    (program.run (relay outside) (database, state)).2.1.Finds ended := by
  obtain ⟨next, taken, settled⟩ := saves.taken
  obtain ⟨after, saved, found, _⟩ := ask_saveDelivery found same fits coded plain
  have replied : relay outside (.store (.saveDelivery ended)) (database, state) =
      (some (.ok ()), after, state) := relay_store (.saveDelivery ended) saved
  obtain ⟨left, governs, ran⟩ := governs.run_eq taken replied
  rw [ran]
  exact Deliveries.lawful.finds_of_rows_eq rfl (deliveries_of_settled governs settled) found

theorem Saves.run_of_null (saves : Saves policy ended point)
    (governs : point.Governs policy program) (fits : Deliveries.Fits ended)
    (null : ¬Plain ended) : program.run (relay outside) (database, state) =
      (some (.error (.ofStore nullRefusal)), database, state) := by
  have replied : relay outside (.store (.saveDelivery ended)) (database, state) =
      (some (.error nullRefusal), database, state) :=
    relay_store (.saveDelivery ended) (ask_saveDelivery_of_null fits null)
  obtain ⟨left, governs, ran⟩ := governs.run_eq (saves.refused _) replied
  rw [ran]
  exact Point.runs_ended _ _ governs

theorem Saves.ends (saves : Saves policy (closed begun reception now) point)
    (governs : point.Governs policy program) (held : Held database begun subscription)
    (coded : ∀ code ∈ reception.code?, code < 0x10000) :
    Ends begun subscription reception (program.run (relay outside) (database, state)) where
  recorded plain := by
    have plain : Plain (closed begun reception now) := by
      rintro body ⟨⟩
      exact plain
    exact ⟨now, saves.run_of_plain governs held.found ⟨rfl, rfl, rfl, rfl, rfl⟩ held.fits coded
      plain⟩
  lost null := by
    rw [saves.run_of_null governs held.fits fun plain => plain _ rfl null]
    exact ⟨rfl, held⟩

/-- A failure is put on record as of the time that it is noticed. -/
theorem ends_refused (responsive : Responsive outside) {flight : Flight}
    (governs : (Point.refused flight).Governs policy program)
    (held : Held database flight.record subscription)
    (code : reception.code? = flight.failure.statusCode?)
    (text : reception.text = failureText flight.failure) (refused : reception.accepts = false)
    (coded : ∀ code ∈ reception.code?, code < 0x10000) :
    Ends flight.record subscription reception
      (program.run (relay outside) (database, state)) := by
  obtain ⟨now, next, told⟩ := responsive.tells state
  obtain ⟨failed, fails⟩ := DeliveryRecord.fail_of_processing flight.inFlight
    flight.failure.statusCode? (failureText flight.failure) now
  have replied : relay outside .now (database, state) = (some now, database, next) :=
    relay_now told
  obtain ⟨left, governs, ran⟩ := governs.run_eq (.notices now fails) replied
  have same : failed = closed flight.record reception now := by
    rw [(DeliveryRecord.fail_eq_ok fails).2, closed, refused, code, text]
    rfl
  have saves : Saves policy (closed flight.record reception now)
      (.failing ⟨flight, now, failed, fails⟩) :=
    same ▸ saves_failing ⟨flight, now, failed, fails⟩
  rw [ran]
  exact saves.ends governs held coded

/-- What came back is put on record as of the time that it is there. -/
theorem ends_answered (responsive : Responsive outside) {attempt : Begun}
    (governs : (Point.answered attempt reception).Governs policy program)
    (held : Held database attempt.begun subscription)
    (coded : ∀ code ∈ reception.code?, code < 0x10000) :
    Ends attempt.begun subscription reception
      (program.run (relay outside) (database, state)) := by
  obtain ⟨now, next, told⟩ := responsive.tells state
  have told : relay outside .now (database, state) = (some now, database, next) :=
    relay_now told
  cases reception with
  | error failure =>
    obtain ⟨left, governs, ran⟩ := governs.run_eq (.refuses now rfl) told
    rw [ran]
    exact ends_refused responsive governs held rfl rfl rfl coded
  | ok response =>
    cases accepted : response.isSuccess with
    | true =>
      obtain ⟨succeeded, succeeds⟩ := DeliveryRecord.succeed_of_processing attempt.inFlight
        response.code response.body now
      obtain ⟨left, governs, ran⟩ := governs.run_eq (.accepts now accepted succeeds) told
      have same : succeeded = closed attempt.begun (.ok response) now := by
        rw [(DeliveryRecord.succeed_eq_ok succeeds).2, closed, Reception.accepts, accepted]
        rfl
      have saves : Saves policy (closed attempt.begun (.ok response) now)
          (.accepted ⟨attempt, response, now, succeeded, accepted, succeeds⟩) :=
        same ▸ saves_accepted ⟨attempt, response, now, succeeded, accepted, succeeds⟩
      rw [ran]
      exact saves.ends governs held coded
    | false =>
      have failure : failure? (.ok response) = some (.receiver response.code response.body) := by
        simp [failure?, accepted]
      obtain ⟨left, governs, ran⟩ := governs.run_eq (.refuses now failure) told
      rw [ran]
      exact ends_refused responsive governs held rfl rfl accepted coded

end HookRelay.Sql
