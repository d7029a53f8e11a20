import HookRelay.Memory.Deployment
import HookRelay.Proofs.Schedule.Plan

/-!
What working on a delivery comes to when the receiver goes by the request alone, the clock stands
still and no call fails: one result, and at most one record saved, one total raised and one task
queued. All of that is told by the delivery's record and by its subscription, whatever the totals of
the subscription are; only a total that is full stops the work.
-/
namespace HookRelay

/-- What an operation comes to where each one is answered by itself alone. -/
def Program.valueBy {interface : Interface} {α : Type}
    (reply : (op : interface.Op) → interface.Reply op) : Program interface α → α
  | .done value => value
  | .step op next => (next (reply op)).valueBy reply

/-- The schedule when nothing is left to chance. -/
def RetryPolicy.plainDecision (policy : RetryPolicy) (attempts maxAttempts : Nat) : Decision :=
  if isExhausted attempts maxAttempts then .exhausted else .retry (policy.plainDelay attempts)

theorem RetryPolicy.decide?_of_plain {policy : RetryPolicy}
    (plain : Binary64.le policy.jitter (.zero false) = true) (attempts maxAttempts : Nat)
    (draw : Binary64) :
    policy.decide? attempts maxAttempts draw = some (policy.plainDecision attempts maxAttempts) := by
  unfold decide? plainDecision
  split
  · rfl
  · rw [nextDelay?_of_plain plain, Option.map_some]

namespace Subscription

variable {subscription : Subscription} {counter other : Counter} {now : Instant}

/-- One more result, whether the total has room for it or not. -/
def counting (subscription : Subscription) (counter : Counter) (now : Instant) : Subscription :=
  match counter with
  | .success =>
    { subscription with successCount := subscription.successCount + 1, lastTriggeredAt := some now }
  | .failure =>
    { subscription with failureCount := subscription.failureCount + 1, lastTriggeredAt := some now }

theorem count?_eq (subscription : Subscription) (counter : Counter) (now : Instant) :
    subscription.count? counter now =
      if subscription.total counter < Counter.greatest then some (subscription.counting counter now)
      else none := by
  unfold count?
  by_cases room : subscription.total counter < Counter.greatest
  · rw [if_pos room, if_neg (by omega)]
    cases counter <;> rfl
  · rw [if_neg room, if_pos (by omega)]

@[simp] theorem counting_id : (subscription.counting counter now).id = subscription.id := by
  cases counter <;> rfl

theorem counting_total : (subscription.counting counter now).total other =
    subscription.total other + if counter = other then 1 else 0 := by
  cases counter <;> cases other <;> rfl

theorem counting_comm : (subscription.counting counter now).counting other now =
    (subscription.counting other now).counting counter now := by
  cases counter <;> cases other <;> rfl

end Subscription

/-- What look-ups find in a store and in a queue. -/
@[ext] structure Books where
  records : Uuid → Option DeliveryRecord
  subscriptions : Uuid → Option Subscription
  slots : Uuid → Option Slot

namespace Books

def save (books : Books) (id : Uuid) (record : DeliveryRecord) : Books where
  records key := if key = id then some record else books.records key
  subscriptions := books.subscriptions
  slots := books.slots

def count (books : Books) (id : Uuid) (counter : Counter) (now : Instant) : Books where
  records := books.records
  subscriptions key :=
    (books.subscriptions key).map fun held => if key = id then held.counting counter now else held
  slots := books.slots

def schedule (books : Books) (id : Uuid) (due : Instant) : Books where
  records := books.records
  subscriptions := books.subscriptions
  slots key := if key = id then some ⟨due, none⟩ else books.slots key

end Books

/-- What the work on a delivery comes to: its result, the record that is saved last, the total that is
raised and when a retry is due. -/
structure Verdict where
  result : Except DeliveryError Outcome
  record : Option DeliveryRecord
  counted : Option (Uuid × Counter)
  due : Option Instant

namespace Verdict

variable {verdict : Verdict} {books : Books} {id other : Uuid} {now : Instant}

def idle (result : Except DeliveryError Outcome) : Verdict := ⟨result, none, none, none⟩

/-- A record was saved earlier. -/
def continuing (begun : DeliveryRecord) (verdict : Verdict) : Verdict :=
  { verdict with record := some (verdict.record.getD begun) }

/-- A subscription with its total raised, if it is the one that is counted. -/
def tally (verdict : Verdict) (id : Uuid) (now : Instant) (subscription : Subscription) :
    Subscription :=
  match verdict.counted with
  | some (counted, counter) =>
    if id = counted then subscription.counting counter now else subscription
  | none => subscription

/-- The books with all of it written down. -/
def enact (verdict : Verdict) (id : Uuid) (now : Instant) (books : Books) : Books where
  records key := if key = id then verdict.record.or (books.records key) else books.records key
  subscriptions key := (books.subscriptions key).map (verdict.tally key now)
  slots key :=
    if key = id then (verdict.due.map (⟨·, none⟩)).or (books.slots key) else books.slots key

def fits (verdict : Verdict) (books : Books) : Bool :=
  match verdict.counted with
  | some (id, counter) =>
    (books.subscriptions id).all fun held => held.total counter < Counter.greatest
  | none => true

theorem fits_iff : verdict.fits books = true ↔ ∀ key counter held,
    verdict.counted = some (key, counter) → books.subscriptions key = some held →
      held.total counter < Counter.greatest := by
  constructor
  · intro fits key counter held counted found
    simpa [Verdict.fits, counted, found] using fits
  · intro room
    unfold fits
    split
    · rename_i key counter counted
      cases found : books.subscriptions key with
      | none => rfl
      | some held => exact decide_eq_true (room key counter held counted found)
    · rfl

/-- How the work ends: with the result, or stopped. -/
def ending (verdict : Verdict) (id : Uuid) (now : Instant) (books : Books) :
    Option (Except DeliveryError Outcome × Books) :=
  if verdict.fits books then some (verdict.result, verdict.enact id now books) else none

theorem ending_idle (result : Except DeliveryError Outcome) :
    (idle result).ending id now books = some (result, books) := by
  have same : (idle result).enact id now books = books := by
    ext1
    · simp [enact, idle]
    · funext key
      exact Option.map_id_apply
    · simp [enact, idle]
  rw [ending, same]
  rfl

theorem ending_continuing (begun : DeliveryRecord) :
    (verdict.continuing begun).ending id now books = verdict.ending id now (books.save id begun) := by
  have same :
      (verdict.continuing begun).enact id now books = verdict.enact id now (books.save id begun) := by
    ext1
    · funext key
      by_cases own : key = id
      · cases verdict.record <;> simp [enact, continuing, Books.save, own]
      · simp [enact, Books.save, own]
    · rfl
    · rfl
  rw [ending, same]
  rfl

theorem ending_written {result : Except DeliveryError Outcome} {record : DeliveryRecord}
    {key : Uuid} {counter : Counter} {due : Option Instant} {held : Subscription}
    (found : books.subscriptions key = some held) :
    (Verdict.mk result (some record) (some (key, counter)) due).ending id now books =
      if held.total counter < Counter.greatest then
        let written := (books.save id record).count key counter now
        some (result, due.elim written (written.schedule id))
      else none := by
  have same : (Verdict.mk result (some record) (some (key, counter)) due).enact id now books =
      due.elim ((books.save id record).count key counter now)
        (((books.save id record).count key counter now).schedule id) := by
    cases due with
    | none =>
      ext1
      · rfl
      · rfl
      · funext other
        exact ite_self _
    | some due => rfl
  rw [ending, same]
  simp [fits, found]

theorem tally_eq (verdict : Verdict) (id : Uuid) (now : Instant) (subscription : Subscription) :
    verdict.tally id now subscription = subscription ∨
      ∃ counter, verdict.tally id now subscription = subscription.counting counter now := by
  unfold tally
  split
  · split
    · exact .inr ⟨_, rfl⟩
    · exact .inl rfl
  · exact .inl rfl

theorem tally_total (verdict : Verdict) (id : Uuid) (subscription : Subscription)
    (counter : Counter) : (verdict.tally id now subscription).total counter =
      subscription.total counter + if verdict.counted = some (id, counter) then 1 else 0 := by
  unfold tally
  cases verdict.counted with
  | none => simp
  | some counted =>
    obtain ⟨key, raised⟩ := counted
    by_cases own : id = key
    · simp [own, Subscription.counting_total]
    · simp [own, Ne.symm own]

theorem tally_comm (first second : Verdict) (id : Uuid) (subscription : Subscription) :
    second.tally id now (first.tally id now subscription) =
      first.tally id now (second.tally id now subscription) := by
  unfold tally
  cases first.counted with
  | none => rfl
  | some counted =>
    cases second.counted with
    | none => rfl
    | some raised =>
      dsimp only
      split
      · split
        · exact Subscription.counting_comm
        · rfl
      · rfl

/-- What comes of two deliveries may be written down in either order. -/
theorem enact_comm (first second : Verdict) (different : id ≠ other) (books : Books) :
    second.enact other now (first.enact id now books) =
      first.enact id now (second.enact other now books) := by
  ext1
  · funext key
    by_cases own : key = id
    · simp [enact, own, different]
    · simp [enact, own]
  -- both may raise totals of one subscription, so here it is not the ids that keep them apart
  · funext key
    simp only [enact, Option.map_map]
    congr 1
    funext subscription
    exact tally_comm first second key subscription
  · funext key
    by_cases own : key = id
    · simp [enact, own, different]
    · simp [enact, own]

end Verdict

/-- What the work on deliveries meets with: a policy without jitter, a client, a receiver that goes by
the request alone, and the time at which a clock stands. -/
structure Backdrop where
  policy : RetryPolicy
  plain : Binary64.le policy.jitter (.zero false) = true
  client : ClientSettings
  react : WireRequest → Exchange
  draw : Deployment → Binary64
  now : Instant

namespace Backdrop

/-! ### What the work comes to -/

section Verdicts

variable (backdrop : Backdrop) (subscription : Subscription)

/-- How a failed attempt is followed up: the result, and when the retry is due if there is one. -/
def sequel (record failed : DeliveryRecord) : Except DeliveryError Outcome × Option Instant :=
  match backdrop.policy.plainDecision failed.attempts subscription.maxAttempts with
  | .exhausted => (.ok (.exhausted failed.attempts), none)
  | .retry delay =>
    match dueAt backdrop.now delay with
    | .error error => (.error error, none)
    | .ok due => (.ok (.retryScheduled record.attempts delay), some due)

/-- A failed attempt is recorded, counted and followed up. -/
def afterFailure (record : DeliveryRecord) (failure : DeliveryError) : Verdict :=
  match record.fail failure.statusCode? (Dispatch.failureText failure) backdrop.now with
  | .error error => .idle (.error (.ofStore (.invalidTransition error)))
  | .ok failed =>
    let sequel := backdrop.sequel subscription record failed
    ⟨sequel.1, some failed, some (subscription.id, .failure), sequel.2⟩

def afterSuccess (record : DeliveryRecord) (response : DeliveryResponse) : Verdict :=
  match record.succeed response.code response.body backdrop.now with
  | .error error => .idle (.error (.ofStore (.invalidTransition error)))
  | .ok succeeded =>
    ⟨.ok (.delivered response.code), some succeeded, some (subscription.id, .success), none⟩

def afterAnswer (record : DeliveryRecord) : Except DeliveryError DeliveryResponse → Verdict
  | .error failure => backdrop.afterFailure subscription record failure
  | .ok response =>
    if response.isSuccess then backdrop.afterSuccess subscription record response
    else backdrop.afterFailure subscription record (.receiver response.code response.body)

/-- What the client makes of the receiver's answers to a request. -/
def answerTo (request : DeliveryRequest) : Except DeliveryError DeliveryResponse :=
  (Client.deliver backdrop.client request).valueBy backdrop.react

/-- An attempt is skipped, cannot be signed, or goes by what is answered. -/
def afterAttempt (record : DeliveryRecord) : Verdict :=
  if !subscription.isActive then
    .idle (.ok (.skipped (.subscriptionInactive subscription.status)))
  else if !record.canAttempt subscription.maxAttempts then
    .idle (.ok (.skipped (.notEligible record.status)))
  else
    let body := Json.canonical (enrich subscription record backdrop.now)
    match Signature.signBytes body subscription.secret with
    | .error error => .idle (.error (.ofSignature error))
    | .ok signature =>
      match record.beginAttempt subscription.maxAttempts with
      | .error error => .idle (.error (.ofStore (.invalidTransition error)))
      | .ok begun =>
        let request := Dispatch.request subscription begun body signature backdrop.now
        (backdrop.afterAnswer subscription begun (backdrop.answerTo request)).continuing begun

end Verdicts

/-- What the work on a delivery comes to, going by the books. -/
def verdict (backdrop : Backdrop) (books : Books) (id : Uuid) : Verdict :=
  match books.records id with
  | none => .idle (.error (.deliveryNotFound id))
  | some record =>
    match books.subscriptions record.subscriptionId with
    | none => .idle (.error (.subscriptionNotFound record.subscriptionId))
    | some subscription =>
      if record.status = .processing then
        backdrop.afterFailure subscription record (.interrupted record.attempts)
      else backdrop.afterAttempt subscription record

section Reading

variable {backdrop : Backdrop} {subscription : Subscription} {record : DeliveryRecord}
  {verdict : Verdict} {id other : Uuid}

/-- The totals of a subscription have no part in it. -/
theorem afterAttempt_counting (counter : Counter) (now : Instant) :
    backdrop.afterAttempt (subscription.counting counter now) record =
      backdrop.afterAttempt subscription record := by
  cases counter <;> rfl

theorem afterFailure_counting (failure : DeliveryError) (counter : Counter) (now : Instant) :
    backdrop.afterFailure (subscription.counting counter now) record failure =
      backdrop.afterFailure subscription record failure := by
  cases counter <;> rfl

/-- What is written about one delivery changes nothing for another. -/
theorem verdict_enact (different : id ≠ other) (books : Books) (now : Instant) :
    backdrop.verdict (verdict.enact other now books) id = backdrop.verdict books id := by
  have kept : (verdict.enact other now books).records id = books.records id := if_neg different
  unfold Backdrop.verdict
  rw [kept]
  cases books.records id with
  | none => rfl
  | some record =>
    dsimp only
    show (match (books.subscriptions record.subscriptionId).map (verdict.tally _ now) with
      | none => _
      | some subscription => _) = _
    cases books.subscriptions record.subscriptionId with
    | none => rfl
    | some subscription =>
      -- the subscription is the one of the start but for its totals
      dsimp only [Option.map_some]
      obtain same | ⟨counter, same⟩ := verdict.tally_eq record.subscriptionId now subscription
      · rw [same]
      · rw [same, afterFailure_counting, afterAttempt_counting]

end Reading

end Backdrop

end HookRelay
