import HookRelay.Proofs.Attempt
import HookRelay.Proofs.Schedule.Plan

namespace HookRelay

open HookRelay.Attempt

variable {most count : Nat}

/-- A delivery whose attempts have failed so far, all of them on record and announced; the delay after
the last failure is over at a time that is known. -/
structure Dossier.Waits (policy : RetryPolicy) (id : Uuid) (most count : Nat) (rested : Instant)
    (dossier : Dossier) : Prop where
  left : count < max 1 most
  paced : dossier.Paced policy count
  refused : ∀ sending ∈ dossier.sendings, accepts sending.answer = false
  failures : dossier.failures.map (fun record => record.attempts) = List.range' 1 count
  rest : ∀ index failed, count = index + 1 → dossier.failures[index]? = some failed →
    RestedBy policy count failed rested
  tasks : dossier.tasks = scheduledTasks policy id count
  events : ∃ failures : List DeliveryFailed, dossier.events = failures.map .failed ∧
    failures.map DeliveryFailed.attemptNumber = List.range' 1 count
  record : ∃ record, dossier.record = some record ∧ record.id = id ∧ record.attempts = count ∧
    (record.status = .pending ∧ count = 0 ∨ record.status = .failed ∧ 0 < count)

/-- A delivery that has been attempted for the last time. -/
structure Dossier.Over (policy : RetryPolicy) (id : Uuid) (most : Nat) (dossier : Dossier) :
    Prop where
  concluded : ∃ count earlier sending, dossier.sendings = earlier ++ [sending] ∧
    earlier.length = count ∧ (∀ sending ∈ earlier, accepts sending.answer = false) ∧
    count < max 1 most ∧ (accepts sending.answer = true ∨ count + 1 = max 1 most) ∧
    dossier.Concluded policy id (count + 1) sending.answer
  record : ∃ record, dossier.record = some record ∧ record.id = id ∧
    record.status ≠ .processing ∧ record.isTerminal most = true

/-- Nothing goes wrong, time only passes, and one delivery finds its subscription active, with a
secret to sign with and the limit that it has. -/
def Conditions.flawless (id : Uuid) (most : Nat) : Conditions where
  storeFails := False
  queueFails := False
  breaksOff := False
  offers delivery _ found := delivery = id → ∃ subscription, found = some subscription ∧
    subscription.isActive = true ∧ subscription.maxAttempts = most ∧
    subscription.secret.isEmpty = false
  passes now later := now ≤ later
  passes_refl now := Int.le_refl now.nanos
  passes_trans _ _ _ first second := Int.le_trans first second

private theorem Conditions.flawless_holds {id : Uuid} :
    ¬((flawless id most).storeFails ∨ (flawless id most).queueFails) :=
  fun fault => fault.elim (fun fault => fault) fun fault => fault

namespace Dossier.Waits

variable {policy : RetryPolicy} {id : Uuid} {start dossier : Dossier} {since rested : Instant}
  {record begun : DeliveryRecord} {subscription : Subscription} {sending : Sending}

theorem later {now : Instant} (waits : dossier.Waits policy id most count rested)
    (passed : rested ≤ now) : dossier.Waits policy id most count now := by
  refine { waits with rest := fun index failed same found => ?_ }
  obtain ⟨completed, ended, elapsed⟩ := waits.rest index failed same found
  exact ⟨completed, ended, Int.le_trans elapsed passed⟩

private theorem offered (waits : start.Waits policy id most count since) {found : Option Subscription}
    (stored : start.record = some record)
    (offered : (Conditions.flawless id most).offers record.id record.subscriptionId found) :
    ∃ subscription, found = some subscription ∧ subscription.isActive = true ∧
      subscription.maxAttempts = most ∧ subscription.secret.isEmpty = false := by
  obtain ⟨held, same, named, _⟩ := waits.record
  cases stored.symm.trans same
  exact offered named

private theorem canAttempt (waits : start.Waits policy id most count since)
    (stored : start.record = some record) :
    record.canAttempt most = true ∧ record.status ≠ .processing := by
  obtain ⟨held, same, _, counted, open_⟩ := waits.record
  cases stored.symm.trans same
  have left := waits.left
  rcases open_ with ⟨status, _⟩ | ⟨status, begun⟩
  · simp [DeliveryRecord.canAttempt, status]
  · simp only [DeliveryRecord.canAttempt, status, decide_eq_true_eq]
    exact ⟨by omega, nofun⟩

private theorem begins (waits : start.Waits policy id most count since)
    (begins : Begins (.flawless id most) start record begun subscription)
    (bounded : most ≤ DeliveryRecord.greatestAttempts) :
    begun.id = id ∧ begun.attempts = count + 1 ∧ begun.status = .processing ∧
      subscription.maxAttempts = most := by
  obtain ⟨held, stored, named, counted, _⟩ := waits.record
  cases begins.stored.symm.trans stored
  obtain ⟨_, same, _, limited, _⟩ := waits.offered begins.stored begins.offered
  cases same
  obtain ⟨_, rfl⟩ := DeliveryRecord.beginAttempt_eq_ok begins.begins
  refine ⟨named, ?_, rfl, limited⟩
  have left := waits.left
  show min (record.attempts + 1) DeliveryRecord.greatestAttempts = count + 1
  simp only [DeliveryRecord.greatestAttempts] at *
  omega

private theorem paced_of_sends (waits : start.Waits policy id most count since)
    (sends : Sends (.flawless id most) start since record begun subscription sending)
    (bounded : most ≤ DeliveryRecord.greatestAttempts) :
    ((start.saved begun).sent sending).Paced policy (count + 1) ∧
      ((start.saved begun).sent sending).failures = start.failures := by
  obtain ⟨_, numbered, status, _⟩ := waits.begins sends.toBegins bounded
  have length := length_of_numbered waits.paced.numbered
  have failures : ((start.saved begun).sent sending).failures = start.failures := by
    show (start.saved begun).failures = _
    simp [failures_saved, status]
  refine ⟨⟨?_, fun index failed later found next => ?_⟩, failures⟩
  · obtain ⟨_, _, _, request⟩ := sends.request
    refine numbered_concat waits.paced.numbered ?_
    rw [request]
    exact numbered
  · rw [failures] at found
    change (start.sendings ++ [sending])[index + 1]? = some later at next
    by_cases early : index + 1 < start.sendings.length
    · rw [List.getElem?_append_left early] at next
      exact waits.paced.spaced index failed later found next
    · rw [List.getElem?_append_right (Nat.le_of_not_lt early)] at next
      cases beyond : index + 1 - start.sendings.length with
      | succ more => simp [beyond] at next
      | zero =>
        simp only [beyond, List.getElem?_cons_zero, Option.some.injEq] at next
        subst next
        have same : count = index + 1 := by omega
        obtain ⟨completed, ended, elapsed⟩ := waits.rest index failed same found
        exact ⟨completed, ended, by rw [← same]; exact Int.le_trans elapsed sends.passed⟩

private theorem refused_of_failure {failure : DeliveryError}
    (failed : sending.failure? = some failure) :
    accepts sending.answer = false ∧ failure.statusCode? = codeOf sending.answer := by
  unfold Sending.failure? at failed
  split at failed
  · rename_i error answered
    cases failed
    rw [answered]
    exact ⟨rfl, rfl⟩
  · rename_i response answered
    split at failed
    · cases failed
    · rename_i refused
      cases failed
      rw [answered]
      exact ⟨by simpa [accepts] using refused, rfl⟩

/-- How the record of an attempt is left: as its answer says. -/
private structure Ended (id : Uuid) (attempt : Nat)
    (answer : Except DeliveryError DeliveryResponse) (record : DeliveryRecord) : Prop where
  named : record.id = id
  numbered : record.attempts = attempt
  status : record.status = if accepts answer then .successful else .failed
  code : record.responseCode = codeOf answer

private theorem ended_of_succeeds (waits : start.Waits policy id most count since)
    {succeeded : DeliveryRecord} {response : DeliveryResponse} {now : Instant}
    (succeeds : Succeeds (.flawless id most) start since record begun succeeded subscription sending
      response now) (bounded : most ≤ DeliveryRecord.greatestAttempts) :
    accepts sending.answer = true ∧ Ended id (count + 1) sending.answer succeeded := by
  obtain ⟨named, numbered, _, _⟩ := waits.begins succeeds.toBegins bounded
  have accepted : accepts sending.answer = true := by
    rw [succeeds.answered]
    exact succeeds.accepted
  obtain ⟨_, rfl⟩ := DeliveryRecord.succeed_eq_ok succeeds.succeeds
  exact ⟨accepted, named, numbered, (if_pos accepted).symm, by rw [succeeds.answered]; rfl⟩

private theorem ended_of_ends (waits : start.Waits policy id most count since) {flight : Dossier}
    {failed : DeliveryRecord} {failure : DeliveryError} {now : Instant}
    (ends : Ends (.flawless id most) start since flight record failed subscription failure now)
    (bounded : most ≤ DeliveryRecord.greatestAttempts) :
    ∃ held sending, Sends (.flawless id most) start since held record subscription sending ∧
      flight = (start.saved record).sent sending ∧ accepts sending.answer = false ∧
      Ended id (count + 1) sending.answer failed ∧ failed.completedAt = some now := by
  obtain ⟨fails, ends⟩ := ends
  cases fails with
  | interrupted stored _ inFlight => exact absurd inFlight (waits.canAttempt stored).2
  | @answered held _ _ sending _ sends failed =>
    obtain ⟨named, numbered, _, _⟩ := waits.begins sends.toBegins bounded
    obtain ⟨refused, code⟩ := refused_of_failure failed
    obtain ⟨_, rfl⟩ := DeliveryRecord.fail_eq_ok ends
    exact ⟨held, sending, sends, rfl, refused, ⟨named, numbered, by rw [refused]; rfl, code⟩, rfl⟩

private theorem paced_of_ended (waits : start.Waits policy id most count since)
    (sends : Sends (.flawless id most) start since record begun subscription sending)
    {ended : DeliveryRecord} (ends : Ended id (count + 1) sending.answer ended)
    (bounded : most ≤ DeliveryRecord.greatestAttempts) :
    (((start.saved begun).sent sending).saved ended).Paced policy (count + 1) ∧
      (((start.saved begun).sent sending).saved ended).failures =
        start.failures ++ if accepts sending.answer then [] else [ended] := by
  obtain ⟨paced, same⟩ := waits.paced_of_sends sends bounded
  have length := length_of_numbered waits.failures
  refine ⟨paced.saved (Nat.le_of_eq (by rw [same, length])), ?_⟩
  rw [failures_saved, same, ends.status]
  cases accepts sending.answer with
  | true => rfl
  | false => rfl

private theorem over_of_ended (waits : start.Waits policy id most count since)
    (sends : Sends (.flawless id most) start since record begun subscription sending)
    {ended : DeliveryRecord} {event : DeliveryEvent}
    (ends : Ended id (count + 1) sending.answer ended)
    (last : accepts sending.answer = true ∨ most ≤ count + 1)
    (announced : if accepts sending.answer then
        ∃ success, event = .succeeded success ∧ success.attemptNumber = count + 1
      else ∃ exhaustion, event = .exhausted exhaustion ∧ exhaustion.attempts = count + 1)
    (bounded : most ≤ DeliveryRecord.greatestAttempts) :
    ((((start.saved begun).sent sending).saved ended).announced event).Over policy id most := by
  obtain ⟨paced, failures⟩ := waits.paced_of_ended sends ends bounded
  have length := length_of_numbered paced.numbered
  obtain ⟨earlier, events, attempts⟩ := waits.events
  have left := waits.left
  have limit : accepts sending.answer = true ∨ count + 1 = max 1 most :=
    last.imp_right fun spent => by omega
  refine ⟨⟨count, start.sendings, sending, rfl, length_of_numbered waits.paced.numbered,
    waits.refused, left, limit, ?_⟩, ended, rfl, ends.named, ?_, ?_⟩
  · refine ⟨length, ⟨paced.numbered, paced.spaced⟩, ?_, waits.tasks,
      ⟨earlier, event, ?_, attempts, announced⟩, ended, rfl, ends.status, ends.numbered, ends.code⟩
    · show List.map _ (((start.saved begun).sent sending).saved ended).failures = _
      rw [failures]
      cases accepts sending.answer with
      | true => exact (congrArg _ (List.append_nil _)).trans waits.failures
      | false => exact numbered_concat waits.failures ends.numbered
    · show start.events ++ [event] = _
      rw [events]
  · rw [ends.status]
    cases accepts sending.answer with
    | true => nofun
    | false => nofun
  · rw [DeliveryRecord.isTerminal, ends.status, ends.numbered]
    cases accepted : accepts sending.answer with
    | true => rfl
    | false => exact decide_eq_true (last.resolve_left (by rw [accepted]; nofun))

private theorem waits_of_ended (waits : start.Waits policy id most count since)
    (sends : Sends (.flawless id most) start since record begun subscription sending)
    {failed : DeliveryRecord} {now later due : Instant} {event : DeliveryFailed}
    (ends : Ended id (count + 1) sending.answer failed)
    (refused : accepts sending.answer = false) (completed : failed.completedAt = some now)
    (left : count + 1 < most) (passed : now ≤ later)
    (reached : dueAt later (policy.plainDelay (count + 1)) = .ok due)
    (numbered : event.attemptNumber = count + 1)
    (bounded : most ≤ DeliveryRecord.greatestAttempts) :
    (((((start.saved begun).sent sending).saved failed).scheduled
      ⟨id, policy.plainDelay (count + 1)⟩ due).announced (.failed event)).Waits policy id most
        (count + 1) due := by
  obtain ⟨paced, failures⟩ := waits.paced_of_ended sends ends bounded
  rw [refused] at failures
  obtain ⟨earlier, events, attempts⟩ := waits.events
  refine ⟨by omega, ⟨paced.numbered, paced.spaced⟩, ?_, ?_, ?_, ?_, ?_, failed, rfl, ends.named,
    ends.numbered, .inr ⟨?_, Nat.succ_pos count⟩⟩
  · intro other member
    rcases List.mem_append.mp member with before | last
    · exact waits.refused other before
    · rw [List.mem_singleton.mp last]
      exact refused
  · show List.map _ (((start.saved begun).sent sending).saved failed).failures = _
    rw [failures]
    exact numbered_concat waits.failures ends.numbered
  · intro index record same found
    change (((start.saved begun).sent sending).saved failed).failures[index]? = some record at found
    have length := length_of_numbered waits.failures
    obtain rfl : index = count := by omega
    rw [failures, List.getElem?_append_right (Nat.le_of_eq length), length, Nat.sub_self] at found
    cases found
    refine ⟨now, completed, ?_⟩
    rw [dueAt_eq_ok reached]
    exact Int.add_le_add_right passed _
  · show start.tasks ++ [_] = _
    rw [waits.tasks, scheduledTasks, scheduledTasks, List.range_succ, List.map_append]
    rfl
  · refine ⟨earlier ++ [event], ?_, ?_⟩
    · show start.events ++ [_] = _
      rw [events, List.map_append]
      rfl
    · exact numbered_concat attempts numbered
  · rw [ends.status, refused]
    rfl

theorem of_slot (waits : dossier.Waits policy id most count rested) (slot : Option Slot) :
    ({ dossier with slot := slot } : Dossier).Waits policy id most count rested :=
  ⟨waits.left, ⟨waits.paced.numbered, waits.paced.spaced⟩, waits.refused, waits.failures,
    waits.rest, waits.tasks, waits.events, waits.record⟩

/-- One round of work takes it to its next delay, or is the last. -/
theorem of_concludes {result : Except DeliveryError Outcome}
    (plain : Binary64.le policy.jitter (.zero false) = true)
    (bounded : most ≤ DeliveryRecord.greatestAttempts)
    (waits : start.Waits policy id most count since)
    (concludes : Concludes (.flawless id most) policy id start since result dossier) :
    (∃ due, dossier.slot = some ⟨due, none⟩ ∧ dossier.Waits policy id most (count + 1) due) ∨
      dossier.Over policy id most := by
  cases concludes with
  | missing absent =>
    obtain ⟨_, stored, _⟩ := waits.record
    cases absent.symm.trans stored
  | unsubscribed stored unknown =>
    obtain ⟨_, impossible, _⟩ := waits.offered stored unknown
    cases impossible
  | faulted givesUp fault lasting => exact absurd fault Conditions.flawless_holds
  | inactive stored offered inactive =>
    obtain ⟨_, same, active, _⟩ := waits.offered stored offered
    cases same
    cases inactive.symm.trans active
  | ineligible stored offered _ unable =>
    obtain ⟨_, same, _, limited, _⟩ := waits.offered stored offered
    cases same
    cases (limited ▸ unable).symm.trans (waits.canAttempt stored).1
  | unsigned stored offered refused =>
    obtain ⟨_, same, _, _, secret⟩ := waits.offered stored offered
    cases same
    simp [Signature.signBytes, Signature.keyedDigest?, secret, Except.map] at refused
  | delivered succeeds =>
    obtain ⟨accepted, ends⟩ := waits.ended_of_succeeds succeeds bounded
    obtain ⟨_, numbered, _, _⟩ := waits.begins succeeds.toBegins bounded
    refine .inr (waits.over_of_ended succeeds.toSends ends (.inl accepted) ?_ bounded)
    rw [if_pos accepted]
    exact ⟨_, rfl, numbered⟩
  | retried retried =>
    obtain ⟨⟨ends, draw, decided⟩, later, passed, reached⟩ := retried
    obtain ⟨_, sending, sends, rfl, refused, ended, completed⟩ := waits.ended_of_ends ends bounded
    obtain ⟨_, numbered, _, limited⟩ := waits.begins sends.toBegins bounded
    obtain ⟨left, next⟩ := RetryPolicy.decide?_eq_retry decided
    rw [ended.numbered, RetryPolicy.nextDelay?_of_plain plain] at next
    cases next
    rw [ended.numbered, limited] at left
    exact .inl ⟨_, rfl, waits.waits_of_ended sends ended refused completed left passed reached
      numbered bounded⟩
  | exhausted ends decided =>
    obtain ⟨draw, decided⟩ := decided
    obtain ⟨_, sending, sends, rfl, refused, ended, _⟩ := waits.ended_of_ends ends bounded
    obtain ⟨_, _, _, limited⟩ := waits.begins sends.toBegins bounded
    have spent := RetryPolicy.decide?_eq_exhausted decided
    rw [ended.numbered, limited] at spent
    refine .inr (waits.over_of_ended sends ended (.inr spent) ?_ bounded)
    rw [refused]
    exact ⟨_, rfl, ended.numbered⟩

end Dossier.Waits

namespace Dossier.Over

variable {policy : RetryPolicy} {id : Uuid} {start dossier : Dossier} {since : Instant}
  {record begun : DeliveryRecord} {subscription : Subscription}

theorem of_slot (finished : dossier.Over policy id most) (slot : Option Slot) :
    ({ dossier with slot := slot } : Dossier).Over policy id most := by
  obtain ⟨⟨count, earlier, sending, sent, length, refused, left, last, concluded⟩, record⟩ :=
    finished
  refine ⟨⟨count, earlier, sending, sent, length, refused, left, last, ?_⟩, record⟩
  exact ⟨concluded.requests, ⟨concluded.paced.numbered, concluded.paced.spaced⟩,
    concluded.failures, concluded.tasks, concluded.events, concluded.record⟩

private theorem not_begins (finished : start.Over policy id most)
    (begins : Begins (.flawless id most) start record begun subscription) : False := by
  obtain ⟨held, stored, named, _, terminal⟩ := finished.record
  cases begins.stored.symm.trans stored
  obtain ⟨_, same, _, limited, _⟩ := begins.offered named
  cases same
  obtain ⟨able, _⟩ := DeliveryRecord.beginAttempt_eq_ok begins.begins
  rw [limited, DeliveryRecord.canAttempt_iff] at able
  cases able.2.symm.trans terminal

private theorem not_fails {flight : Dossier} {failure : DeliveryError}
    (finished : start.Over policy id most)
    (fails : Fails (.flawless id most) start since flight record subscription failure) : False := by
  cases fails with
  | interrupted stored offered inFlight =>
    obtain ⟨held, found, _, landed, _⟩ := finished.record
    cases stored.symm.trans found
    exact landed inFlight
  | answered sends failed => exact finished.not_begins sends.toBegins

/-- Nothing is done about it any more, even if its task comes up again. -/
theorem of_concludes {result : Except DeliveryError Outcome} (finished : start.Over policy id most)
    (concludes : Concludes (.flawless id most) policy id start since result dossier) :
    dossier.Over policy id most := by
  cases concludes with
  | missing absent => exact finished
  | unsubscribed stored unknown => exact finished
  | faulted givesUp fault lasting => exact absurd fault Conditions.flawless_holds
  | inactive stored offered inactive => exact finished
  | ineligible stored offered landed unable => exact finished
  | unsigned stored offered refused => exact finished
  | delivered succeeds => exact (finished.not_begins succeeds.toBegins).elim
  | retried retried => exact (finished.not_fails retried.fails).elim
  | exhausted ends decided => exact (finished.not_fails ends.fails).elim

end Dossier.Over

end HookRelay
