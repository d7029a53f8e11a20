import HookRelay.Proofs.Outbound.Trail

/-!
What work on deliveries enters in the books: results that subscriptions are to count, failures that
are stored, retries that could not be queued, and announcements. What is entered goes by the result
that is tallied in the end.
-/
namespace HookRelay

open HookRelay.Action

inductive Entry where
  /-- A result is to be counted, which may fail. -/
  | asked (owner : Uuid) (counter : Counter) (counted : Bool)
  /-- It is stored that an attempt failed. -/
  | failed (owner : Uuid)
  /-- A retry could not be queued. -/
  | stranded
  | announced (event : DeliveryEvent)

namespace Entry

def asks (owner : Uuid) (counter : Counter) : Entry → Bool
  | asked id which _ => id = owner && which = counter
  | _ => false

def counts (owner : Uuid) (counter : Counter) : Entry → Bool
  | asked id which counted => id = owner && which = counter && counted
  | _ => false

def misses (owner : Uuid) (counter : Counter) : Entry → Bool
  | asked id which counted => id = owner && which = counter && !counted
  | _ => false

def fails (owner : Uuid) : Entry → Bool
  | failed id => id = owner
  | _ => false

def isFailed : Entry → Bool
  | failed _ => true
  | _ => false

def isStranded : Entry → Bool
  | stranded => true
  | _ => false

def announces (test : DeliveryEvent → Bool) : Entry → Bool
  | announced event => test event
  | _ => false

end Entry

namespace Answered

/-- What is entered for an effect, by the reply to it. -/
def entry? : Answered → Option Entry
  | ⟨.store (.increment owner counter _), reply⟩ =>
    some (.asked owner counter (Except.isOk (reply : Except StoreError Unit)))
  | ⟨.store (.saveDelivery record), reply⟩ =>
    if record.status = .failed && Except.isOk (reply : Except StoreError Unit) then
      some (.failed record.subscriptionId)
    else none
  | ⟨.queue (.enqueue _), reply⟩ =>
    if Except.isOk (reply : Except DeliveryError Unit) then none else some .stranded
  | ⟨.publish event, _⟩ => some (.announced event)
  | _ => none

def tally? : Answered → Option (Except DeliveryError Outcome)
  | ⟨.tally result, _⟩ => some result
  | _ => none

/-- Whose delivery is loaded to be worked on, when one is. -/
def load? : Answered → Option (Option Uuid)
  | ⟨.store (.findDelivery _), reply⟩ =>
    some ((Except.toOption (reply : Except StoreError (Option DeliveryRecord))).join.map
      DeliveryRecord.subscriptionId)
  | _ => none

def Between (answered : Answered) : Prop := answered.load? = none ∧ answered.tally? = none

/-- Subscriptions are found under their own ids. -/
def Genuine : Answered → Prop
  | ⟨.store (.findSubscription id), reply⟩ => ∀ subscription,
    reply = (.ok (some subscription) : Except StoreError (Option Subscription)) →
      subscription.id = id
  | _ => True

end Answered

/-- A result that was tallied, and whose delivery had been loaded for it. -/
abbrev Tallied := Option Uuid × Except DeliveryError Outcome

/-- What is entered for a delivery, by its result. -/
inductive Booked : Tallied → List Entry → Prop where
  | skipped (owner : Option Uuid) (reason : SkipReason) : Booked (owner, .ok (.skipped reason)) []
  | faulted (owner : Option Uuid) (error : DeliveryError) : Booked (owner, .error error) []
  | delivered (owner : Uuid) (code : Nat) (counted : Bool) (event : DeliverySucceeded) :
      Booked (some owner, .ok (.delivered code))
        [.asked owner .success counted, .announced (.succeeded event)]
  | stranded (owner : Uuid) (error : DeliveryError) (counted : Bool) :
      Booked (some owner, .error error) [.failed owner, .asked owner .failure counted, .stranded]
  | retried (owner : Uuid) (attempt : Nat) (delay : Duration) (counted : Bool)
      (event : DeliveryFailed) : Booked (some owner, .ok (.retryScheduled attempt delay))
        [.failed owner, .asked owner .failure counted, .announced (.failed event)]
  | exhausted (owner : Uuid) (attempts : Nat) (counted : Bool) (event : DeliveryExhausted) :
      Booked (some owner, .ok (.exhausted attempts))
        [.failed owner, .asked owner .failure counted, .announced (.exhausted event)]

/-- A world that may reply anything, but for subscriptions that are not the ones asked for. -/
def ledger : Surroundings Relay (List Answered) :=
  { trail with turn := fun effect past reply after =>
      Answered.Genuine ⟨effect, reply⟩ ∧ after = past ++ [⟨effect, reply⟩] }

/-- Whatever it is told, a program leaves a trail of this kind behind its result. -/
def Program.Leaves {α : Type} (program : Program Relay α) (post : α → List Answered → Prop) :
    Prop :=
  ∀ past, program.Heeds ledger (fun _ _ => True)
    (fun value after => ∃ trail, after = past ++ trail ∧ post value trail) past

/-- A delivery is loaded first, and what is done then is booked. -/
def Posts (result : Except DeliveryError Outcome) (trail : List Answered) : Prop :=
  ∃ loaded rest owner, trail = loaded :: rest ∧ loaded.load? = some owner ∧
    loaded.tally? = none ∧ loaded.entry? = none ∧ (∀ answered ∈ rest, answered.Between) ∧
    Booked (owner, result) (rest.filterMap Answered.entry?)

namespace Program

variable {α β : Type} {post : α → List Answered → Prop} {effect : Effect}

theorem leaves_done {value : α} (ends : post value []) :
    (.done value : Program Relay α).Leaves post :=
  fun past => ⟨[], (List.append_nil past).symm, ends⟩

theorem leaves_step {next : effect.Reply → Program Relay α}
    (follows : ∀ reply, Answered.Genuine ⟨effect, reply⟩ →
      (next reply).Leaves fun value trail => post value (⟨effect, reply⟩ :: trail)) :
    (.step effect next : Program Relay α).Leaves post := by
  intro past met same
  subst same
  refine ⟨trivial, fun reply after ⟨genuine, turn⟩ => ?_⟩
  subst turn
  refine (follows reply genuine _).mono (fun _ _ => id) ?_
  rintro value after ⟨trail, rfl, ends⟩
  exact ⟨_, by rw [List.append_assoc, List.singleton_append], ends⟩

theorem leaves_bind {program : Program Relay β} {next : β → Program Relay α}
    {middle : β → List Answered → Prop} (first : program.Leaves middle)
    (follows : ∀ value trail, middle value trail →
      (next value).Leaves fun last later => post last (trail ++ later)) :
    (program >>= next).Leaves post := by
  intro past
  refine (heeds_bind program next).mpr ((first past).mono (fun _ _ => id) ?_)
  rintro value after ⟨trail, rfl, reached⟩
  refine (follows value trail reached _).mono (fun _ _ => id) ?_
  rintro last after ⟨later, rfl, ends⟩
  exact ⟨_, List.append_assoc _ _ _, ends⟩

theorem Leaves.mono {program : Program Relay α} {weaker : α → List Answered → Prop}
    (leaves : program.Leaves post)
    (weakens : ∀ value trail, post value trail → weaker value trail) :
    program.Leaves weaker := by
  intro past
  refine (leaves past).mono (fun _ _ => id) ?_
  rintro value after ⟨trail, rfl, ends⟩
  exact ⟨trail, rfl, weakens value trail ends⟩

end Program

namespace Dispatch

variable {policy : RetryPolicy} {owner : Uuid} {entries : List Entry} {point next : Point}
  {effect : Effect} {reply : effect.Reply} {trail : List Answered}

/-- What has been entered to the account of an owner when the work is at a point. -/
def Point.Enters (owner : Uuid) (entries : List Entry) : Point → Prop
  | .called _ => False
  | .loaded record => record.subscriptionId = owner ∧ entries = []
  | .eligible subscription record .. =>
    subscription.id = owner ∧ record.subscriptionId = owner ∧ entries = []
  | .begun attempt | .ready attempt | .answered attempt _ =>
    attempt.subscription.id = owner ∧ attempt.begun.subscriptionId = owner ∧ entries = []
  | .accepted success | .succeeded success => success.subscription.id = owner ∧ entries = []
  | .credited _ => ∃ counted, entries = [.asked owner .success counted]
  | .refused flight =>
    flight.subscription.id = owner ∧ flight.record.subscriptionId = owner ∧ entries = []
  | .failing failure =>
    failure.subscription.id = owner ∧ failure.failed.subscriptionId = owner ∧ entries = []
  | .failed failure => failure.subscription.id = owner ∧ entries = [.failed owner]
  | .charged _ | .retrying .. | .retried .. | .exhausted _ =>
    ∃ counted, entries = [.failed owner, .asked owner .failure counted]
  | .undecided => True
  | .ended result => Booked (some owner, result) entries

theorem entry?_saved {record : DeliveryRecord} :
    (Answered.entry? (.saved record)).toList =
      if record.status = .failed then [.failed record.subscriptionId] else [] := by
  by_cases status : record.status = .failed
  · simp [Answered.entry?, Answered.saved, Except.isOk, Except.toBool, status]
  · simp [Answered.entry?, Answered.saved, status]

theorem enters_unsaved (record : DeliveryRecord) (error : StoreError) (failure : DeliveryError) :
    (Point.ended (.error failure)).Enters owner ([] ++ (Answered.entry?
      ⟨.store (.saveDelivery record), (.error error : Except StoreError Unit)⟩).toList) := by
  have quiet : Answered.entry? ⟨.store (.saveDelivery record),
      (.error error : Except StoreError Unit)⟩ = none := by
    simp [Answered.entry?, Except.isOk, Except.toBool]
  rw [quiet]
  exact .faulted _ _

theorem Point.Goes.enters (goes : Goes policy point effect reply next)
    (genuine : Answered.Genuine ⟨effect, reply⟩) (enters : point.Enters owner entries) :
    next.Enters owner (entries ++ (Answered.entry? ⟨effect, reply⟩).toList) := by
  cases goes with
  | unread error => exact enters.elim
  | missing => exact enters.elim
  | loads record => exact enters.elim
  | unowned error =>
    obtain ⟨_, rfl⟩ := enters
    exact .faulted _ _
  | orphaned =>
    obtain ⟨_, rfl⟩ := enters
    exact .faulted _ _
  | interrupted subscription inFlight =>
    obtain ⟨own, rfl⟩ := enters
    exact ⟨(genuine subscription rfl).trans own, own, rfl⟩
  | inactive subscription landed inactive =>
    obtain ⟨_, rfl⟩ := enters
    exact .skipped _ _
  | ineligible subscription landed active unable =>
    obtain ⟨_, rfl⟩ := enters
    exact .skipped _ _
  | admits subscription landed active able =>
    obtain ⟨own, rfl⟩ := enters
    exact ⟨(genuine subscription rfl).trans own, own, rfl⟩
  | unsigned prepared refused =>
    obtain ⟨_, _, rfl⟩ := enters
    exact .faulted _ _
  | begins prepared begins signed =>
    obtain ⟨found, own, rfl⟩ := enters
    obtain ⟨_, rfl⟩ := DeliveryRecord.beginAttempt_eq_ok begins
    exact ⟨found, own, rfl⟩
  | unbegun error =>
    obtain ⟨_, _, rfl⟩ := enters
    exact enters_unsaved _ _ _
  | @readies attempt =>
    obtain ⟨found, own, rfl⟩ := enters
    have unfailed : attempt.begun.status ≠ .failed := by simp [attempt.inFlight]
    exact ⟨found, own, entry?_saved.trans (if_neg unfailed)⟩
  | sends answer =>
    obtain ⟨found, own, rfl⟩ := enters
    exact ⟨found, own, rfl⟩
  | accepts now accepted succeeds =>
    obtain ⟨found, _, rfl⟩ := enters
    exact ⟨found, rfl⟩
  | refuses completed refused =>
    obtain ⟨found, own, rfl⟩ := enters
    exact ⟨found, own, rfl⟩
  | unsucceeded error =>
    obtain ⟨_, rfl⟩ := enters
    exact enters_unsaved _ _ _
  | @succeeds success =>
    obtain ⟨found, rfl⟩ := enters
    have unfailed : success.succeeded.status ≠ .failed := by
      rw [(DeliveryRecord.succeed_eq_ok success.succeeds).2]
      exact nofun
    exact ⟨found, entry?_saved.trans (if_neg unfailed)⟩
  | credits counted =>
    obtain ⟨rfl, rfl⟩ := enters
    exact ⟨_, rfl⟩
  | delivers =>
    obtain ⟨counted, rfl⟩ := enters
    exact .delivered _ _ _ _
  | notices now fails =>
    obtain ⟨found, own, rfl⟩ := enters
    obtain ⟨_, rfl⟩ := DeliveryRecord.fail_eq_ok fails
    exact ⟨found, own, rfl⟩
  | unfailed error =>
    obtain ⟨_, _, rfl⟩ := enters
    exact enters_unsaved _ _ _
  | @fails failure =>
    obtain ⟨found, own, rfl⟩ := enters
    exact ⟨found, own ▸ entry?_saved.trans (if_pos failure.status)⟩
  | charges counted =>
    obtain ⟨rfl, rfl⟩ := enters
    exact ⟨_, rfl⟩
  | hesitates undecided => trivial
  | retries decided =>
    obtain ⟨counted, rfl⟩ := enters
    exact ⟨counted, rfl⟩
  | exhausts decided =>
    obtain ⟨counted, rfl⟩ := enters
    exact ⟨counted, rfl⟩
  | unqueued error =>
    obtain ⟨counted, rfl⟩ := enters
    exact .stranded _ _ _
  | queues =>
    obtain ⟨counted, rfl⟩ := enters
    exact ⟨counted, rfl⟩
  | announces =>
    obtain ⟨counted, rfl⟩ := enters
    exact .retried _ _ _ _ _
  | reports =>
    obtain ⟨counted, rfl⟩ := enters
    exact .exhausted _ _ _ _

/-- Where the work is, by what has been answered since it began. -/
inductive Posting : Point → List Answered → Prop where
  | called (id : Uuid) : Posting (.called id) []
  | unfound {loaded : Answered} {error : DeliveryError} (load : loaded.load? = some none)
      (untallied : loaded.tally? = none) (quiet : loaded.entry? = none) :
      Posting (.ended (.error error)) [loaded]
  | found {loaded : Answered} {rest : List Answered} {owner : Uuid} {point : Point}
      (load : loaded.load? = some (some owner)) (untallied : loaded.tally? = none)
      (quiet : loaded.entry? = none) (between : ∀ answered ∈ rest, answered.Between)
      (enters : point.Enters owner (rest.filterMap Answered.entry?)) :
      Posting point (loaded :: rest)

/-- Nothing but the delivery that is worked on is loaded, and nothing is tallied. -/
theorem Point.Goes.between (goes : Goes policy point effect reply next)
    (enters : point.Enters owner entries) : Answered.Between ⟨effect, reply⟩ := by
  cases goes with
  | unread error => exact enters.elim
  | missing => exact enters.elim
  | loads record => exact enters.elim
  | _ => exact ⟨rfl, rfl⟩

theorem Posting.goes (posting : Posting point trail) (goes : Point.Goes policy point effect reply next)
    (genuine : Answered.Genuine ⟨effect, reply⟩) : Posting next (trail ++ [⟨effect, reply⟩]) := by
  cases posting with
  | called id =>
    cases goes with
    | unread error => exact .unfound rfl rfl rfl
    | missing => exact .unfound rfl rfl rfl
    | loads record => exact .found rfl rfl rfl (List.forall_mem_nil _) ⟨rfl, rfl⟩
  | unfound load untallied quiet => cases goes
  | found load untallied quiet between enters =>
    refine .found load untallied quiet ?_ ?_
    · exact List.forall_mem_append.mpr ⟨between, List.forall_mem_singleton.mpr (goes.between enters)⟩
    · show next.Enters _ (List.filterMap _ (_ ++ _))
      rw [List.filterMap_append, List.filterMap_cons, List.filterMap_nil]
      have entered := goes.enters genuine enters
      cases entry : Answered.entry? ⟨effect, reply⟩ with
      | none => rwa [entry] at entered
      | some value => rwa [entry] at entered

theorem Posting.posts {result : Except DeliveryError Outcome}
    (posting : Posting (.ended result) trail) : Posts result trail := by
  cases posting with
  | unfound load untallied quiet =>
    exact ⟨_, [], none, rfl, load, untallied, quiet, List.forall_mem_nil _, .faulted _ _⟩
  | found load untallied quiet between enters =>
    exact ⟨_, _, _, rfl, load, untallied, quiet, between, enters⟩

/-- A call loads its delivery first, and books what it does to the owner that it finds. -/
theorem process_books (policy : RetryPolicy) (id : Uuid) :
    (process policy id).result.Leaves Posts := by
  intro past
  let posted (point : Point) (after : List Answered) : Prop :=
    ∃ trail, after = past ++ trail ∧ Posting point trail
  have called : posted (.called id) past := ⟨[], (List.append_nil past).symm, .called id⟩
  refine (governs_process policy id).heeds called ?_ ?_ ?_ ?_
  · rintro point after _ rfl posted
    exact posted
  · exact fun _ _ _ _ _ => trivial
  · rintro point effect reply next _ after goes ⟨genuine, rfl⟩ ⟨trail, rfl, posting⟩
    exact ⟨_, List.append_assoc _ _ _, posting.goes goes genuine⟩
  · rintro result _ ⟨trail, rfl, posting⟩
    exact ⟨trail, rfl, posting.posts⟩

end Dispatch

end HookRelay
