import HookRelay.Proofs.Ledger.Entry

namespace HookRelay

open HookRelay.Action

namespace Worker

def isDelivered : Except DeliveryError Outcome → Bool
  | .ok (.delivered _) => true
  | _ => false

/-- An attempt was made and failed, whether it is to be retried or was the last one. -/
def isRefused : Except DeliveryError Outcome → Bool
  | .ok (.retryScheduled ..) => true
  | .ok (.exhausted _) => true
  | _ => false

def isSkipped : Except DeliveryError Outcome → Bool
  | .ok (.skipped _) => true
  | _ => false

def isFaulted : Except DeliveryError Outcome → Bool
  | .ok _ => false
  | .error _ => true

end Worker

def Tallied.deliveredFor (owner : Uuid) (tallied : Tallied) : Bool :=
  tallied.1 = some owner && Worker.isDelivered tallied.2

/-- The results that are tallied on a trail, each with the owner whose delivery was loaded last. -/
def talliesFrom (owner : Option Uuid) : List Answered → List Tallied
  | [] => []
  | answered :: rest =>
    match answered.tally? with
    | some result => (owner, result) :: talliesFrom owner rest
    | none => talliesFrom (answered.load?.getD owner) rest

def tallies (trail : List Answered) : List Tallied := talliesFrom none trail

def entries (trail : List Answered) : List Entry := trail.filterMap Answered.entry?

/-- Entries go with the results that were tallied. -/
structure Balanced (entries : List Entry) (results : List Tallied) : Prop where
  successes : ∀ owner, entries.countP (Entry.asks owner .success) =
    results.countP (Tallied.deliveredFor owner)
  failures : ∀ owner, entries.countP (Entry.asks owner .failure) =
    entries.countP (Entry.fails owner)
  settled : entries.countP Entry.isFailed =
    entries.countP (Entry.announces DeliveryEvent.isFailed) +
      entries.countP (Entry.announces DeliveryEvent.isExhausted) + entries.countP Entry.isStranded
  succeeded : entries.countP (Entry.announces DeliveryEvent.isSucceeded) =
    results.countP fun tallied => Worker.isDelivered tallied.2
  failed : entries.countP (Entry.announces DeliveryEvent.isFailed) +
      entries.countP (Entry.announces DeliveryEvent.isExhausted) =
    results.countP fun tallied => Worker.isRefused tallied.2

namespace Balanced

variable {first second : List Entry} {results others : List Tallied}

theorem nil : Balanced [] [] := ⟨fun _ => rfl, fun _ => rfl, rfl, rfl, rfl⟩

theorem append (balanced : Balanced first results) (further : Balanced second others) :
    Balanced (first ++ second) (results ++ others) where
  successes owner := by
    rw [List.countP_append, List.countP_append, balanced.successes, further.successes]
  failures owner := by
    rw [List.countP_append, List.countP_append, balanced.failures, further.failures]
  settled := by
    have earlier := balanced.settled
    have later := further.settled
    simp only [List.countP_append]
    omega
  succeeded := by
    rw [List.countP_append, List.countP_append, balanced.succeeded, further.succeeded]
  failed := by
    have earlier := balanced.failed
    have later := further.failed
    simp only [List.countP_append]
    omega

end Balanced

theorem Booked.balanced {tallied : Tallied} {booked : List Entry} (books : Booked tallied booked) :
    Balanced booked [tallied] := by
  cases books with
  | skipped owner reason =>
    refine ⟨fun other => ?_, fun other => rfl, rfl, rfl, rfl⟩
    simp [Tallied.deliveredFor, Worker.isDelivered]
  | faulted owner error =>
    refine ⟨fun other => ?_, fun other => rfl, rfl, rfl, rfl⟩
    simp [Tallied.deliveredFor, Worker.isDelivered]
  | delivered owner code counted event =>
    refine ⟨fun other => ?_, fun other => ?_, rfl, rfl, rfl⟩
    · simp [Tallied.deliveredFor, Worker.isDelivered, Entry.asks, List.countP_cons]
    · simp [Entry.asks, Entry.fails]
  | stranded owner error counted =>
    refine ⟨fun other => ?_, fun other => ?_, rfl, rfl, rfl⟩
    · simp [Tallied.deliveredFor, Worker.isDelivered, Entry.asks]
    · simp [Entry.asks, Entry.fails, List.countP_cons]
  | retried owner attempt delay counted event =>
    refine ⟨fun other => ?_, fun other => ?_, rfl, rfl, rfl⟩
    · simp [Tallied.deliveredFor, Worker.isDelivered, Entry.asks]
    · simp [Entry.asks, Entry.fails, List.countP_cons]
  | exhausted owner attempts counted event =>
    refine ⟨fun other => ?_, fun other => ?_, rfl, rfl, rfl⟩
    · simp [Tallied.deliveredFor, Worker.isDelivered, Entry.asks]
    · simp [Entry.asks, Entry.fails, List.countP_cons]

variable {α : Type} {trail later : List Answered} {results : List Tallied}

theorem entries_append (trail later : List Answered) :
    entries (trail ++ later) = entries trail ++ entries later := List.filterMap_append

theorem talliesFrom_append (owner : Option Uuid) (trail : List Answered) :
    ∃ last, ∀ later, talliesFrom owner (trail ++ later) =
      talliesFrom owner trail ++ talliesFrom last later := by
  induction trail generalizing owner with
  | nil => exact ⟨owner, fun _ => rfl⟩
  | cons answered rest ih =>
    cases tallied : answered.tally? with
    | some result =>
      obtain ⟨last, split⟩ := ih owner
      exact ⟨last, fun later => by simp [talliesFrom, tallied, split]⟩
    | none =>
      obtain ⟨last, split⟩ := ih (answered.load?.getD owner)
      exact ⟨last, fun later => by simp [talliesFrom, tallied, split]⟩

theorem talliesFrom_of_between (between : ∀ answered ∈ trail, answered.Between)
    (owner : Option Uuid) (later : List Answered) :
    talliesFrom owner (trail ++ later) = talliesFrom owner later := by
  induction trail with
  | nil => rfl
  | cons answered rest ih =>
    obtain ⟨⟨unloaded, untallied⟩, between⟩ := List.forall_mem_cons.mp between
    simp [talliesFrom, unloaded, untallied, ih between]

/-- A trail balances its own tallies, whosever delivery was loaded before it. -/
def Squares (trail : List Answered) : Prop :=
  ∃ results, (∀ owner, talliesFrom owner trail = results) ∧ Balanced (entries trail) results

namespace Squares

theorem nil : Squares [] := ⟨[], fun _ => rfl, .nil⟩

theorem append (squares : Squares trail) (further : Squares later) : Squares (trail ++ later) := by
  obtain ⟨results, tallied, balanced⟩ := squares
  obtain ⟨others, afterwards, further⟩ := further
  refine ⟨results ++ others, fun owner => ?_, ?_⟩
  · obtain ⟨last, split⟩ := talliesFrom_append owner trail
    rw [split, tallied, afterwards]
  · rw [entries_append]
    exact balanced.append further

theorem of_between {answered : Answered} (between : answered.Between)
    (quiet : answered.entry? = none) : Squares [answered] := by
  refine ⟨[], fun owner => ?_, ?_⟩
  · exact talliesFrom_of_between (List.forall_mem_singleton.mpr between) owner []
  · rw [entries, List.filterMap_cons_none quiet]
    exact .nil

theorem cons {answered : Answered} (between : answered.Between) (quiet : answered.entry? = none)
    (squares : Squares trail) : Squares (answered :: trail) :=
  (of_between between quiet).append squares

/-- What is posted for a delivery is squared when its result is tallied. -/
theorem of_posts {result : Except DeliveryError Outcome} (closing : List Answered)
    (posts : Posts result trail) (between : ∀ answered ∈ closing, answered.Between)
    (quiet : entries closing = []) : Squares (trail ++ (closing ++ [⟨.tally result, ()⟩])) := by
  obtain ⟨loaded, rest, owner, rfl, load, untallied, silent, others, booked⟩ := posts
  refine ⟨[(owner, result)], fun before => ?_, ?_⟩
  · rw [List.cons_append, talliesFrom, untallied, load]
    dsimp only [Option.getD_some]
    rw [talliesFrom_of_between others, talliesFrom_of_between between]
    rfl
  · rw [entries_append, entries_append, quiet, entries, List.filterMap_cons_none silent]
    exact booked.balanced.append .nil

end Squares

/-- Whatever it is told, the trail of a program is squared in the end. -/
def Program.Square (program : Program Relay α) : Prop := program.Leaves fun _ trail => Squares trail

namespace Program

variable {β : Type} {effect : Effect}

theorem square_done (value : α) : (.done value : Program Relay α).Square := leaves_done .nil

theorem square_step {next : effect.Reply → Program Relay α}
    (between : ∀ reply, Answered.Between ⟨effect, reply⟩)
    (quiet : ∀ reply, Answered.entry? ⟨effect, reply⟩ = none)
    (follows : ∀ reply, (next reply).Square) : (.step effect next : Program Relay α).Square :=
  leaves_step fun reply _ => Leaves.mono (follows reply) fun _ _ squares =>
    squares.cons (between reply) (quiet reply)

theorem square_bind {program : Program Relay β} {next : β → Program Relay α}
    (first : program.Square) (follows : ∀ value, (next value).Square) :
    (program >>= next).Square :=
  leaves_bind first fun value _ squares => Leaves.mono (follows value) fun _ _ further =>
    squares.append further

end Program

namespace Worker

open HookRelay.Program

private theorem processOne_square (policy : RetryPolicy) (lease : Lease) :
    (processOne policy lease).Square := by
  unfold processOne
  refine leaves_bind (Dispatch.process_books policy lease.deliveryId) fun result trail posts => ?_
  split
  · refine leaves_step fun reply _ => leaves_step fun _ _ => leaves_done ?_
    refine .of_posts [⟨.queue (.complete lease), reply⟩] posts ?_ rfl
    exact List.forall_mem_singleton.mpr ⟨rfl, rfl⟩
  · refine leaves_step fun _ _ => leaves_done ?_
    exact .of_posts [] posts (List.forall_mem_nil _) rfl

private theorem processEach_square (policy : RetryPolicy) (leases : List Lease) :
    (processEach policy leases).Square := by
  induction leases with
  | nil => exact square_done ()
  | cons lease rest ih => exact square_bind (processOne_square policy lease) fun _ => ih

theorem batch_square (settings : WorkerSettings) (policy : RetryPolicy) :
    (batch settings policy).result.Square := by
  unfold batch
  rw [result_queue_bind]
  refine square_step (fun _ => ⟨rfl, rfl⟩) (fun _ => rfl) fun reply => ?_
  cases reply with
  | error error => exact square_done _
  | ok leases =>
    dsimp only
    rw [result_lift_bind]
    exact square_bind (processEach_square policy leases) fun _ => square_done _

theorem run_square (settings : WorkerSettings) (policy : RetryPolicy) (turns : Nat) :
    (run settings policy turns).Square := by
  induction turns with
  | zero => exact square_done ()
  | succ turns ih =>
    refine square_step (fun _ => ⟨rfl, rfl⟩) (fun _ => rfl) fun cancelled => ?_
    split
    · exact square_done ()
    · refine square_bind (batch_square settings policy) fun result => ?_
      split
      · exact square_step (fun _ => ⟨rfl, rfl⟩) (fun _ => rfl) fun _ => ih
      · exact ih

end Worker

namespace Sweep

open HookRelay.Program

private theorem clearEach_square (now : Instant) (candidates : List Subscription) :
    (clearEach now candidates).Square := by
  induction candidates with
  | nil => exact square_done 0
  | cons first rest ih =>
    unfold clearEach
    split
    · refine square_step (fun _ => ⟨rfl, rfl⟩) (fun _ => rfl) fun _ => ?_
      exact square_bind (square_done _) fun _ => square_bind ih fun _ => square_done _
    · exact ih

theorem once_square : once.result.Square := by
  unfold once
  rw [result_store_bind]
  refine square_step (fun _ => ⟨rfl, rfl⟩) (fun _ => rfl) fun reply => ?_
  cases reply with
  | error error => exact square_done _
  | ok candidates =>
    dsimp only
    rw [result_perform_bind]
    refine square_step (fun _ => ⟨rfl, rfl⟩) (fun _ => rfl) fun now => ?_
    exact square_bind (clearEach_square now candidates) fun _ => square_done _

theorem run_square (interval : Duration) (turns : Nat) : (run interval turns).Square := by
  induction turns with
  | zero => exact square_done ()
  | succ turns ih =>
    refine square_bind once_square fun _ => ?_
    refine square_step (fun _ => ⟨rfl, rfl⟩) (fun _ => rfl) fun _ => ?_
    refine square_step (fun _ => ⟨rfl, rfl⟩) (fun _ => rfl) fun cancelled => ?_
    split
    · exact square_done ()
    · exact ih

end Sweep

end HookRelay
