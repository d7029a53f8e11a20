import HookRelay.Proofs.Site

namespace HookRelay

/-- Only an answer with a code that accepts ends the attempts early. -/
def accepts : Except DeliveryError DeliveryResponse → Bool
  | .ok response => response.isSuccess
  | .error _ => false

def codeOf : Except DeliveryError DeliveryResponse → Option Nat
  | .ok response => some response.code
  | .error failure => failure.statusCode?

/-- The number of attempts: up to the first answer that accepts, or to the limit, but always one. -/
def attemptsMade (answers : Nat → Except DeliveryError DeliveryResponse) (most : Nat) : Nat :=
  match (List.range (max 1 most)).find? fun index => accepts (answers index) with
  | some index => index + 1
  | none => max 1 most

/-- The delay after attempt number `attempt` failed, when nothing is left to chance. -/
def RetryPolicy.plainDelay (policy : RetryPolicy) (attempt : Nat) : Duration :=
  (delayBefore attempt policy.initialDelay policy.multiplier policy.maxDelay).min policy.maxDelay

theorem RetryPolicy.nextDelay?_of_plain {policy : RetryPolicy}
    (plain : Binary64.le policy.jitter (.zero false) = true) (attempt : Nat) (draw : Binary64) :
    policy.nextDelay? attempt draw = some (policy.plainDelay attempt) := by
  simp [nextDelay?, spread?, plain, plainDelay]

variable {answers : Nat → Except DeliveryError DeliveryResponse} {most count : Nat}

theorem attemptsMade_eq (refused : ∀ index < count, accepts (answers index) = false)
    (allowed : count < max 1 most)
    (last : accepts (answers count) = true ∨ count + 1 = max 1 most) :
    attemptsMade answers most = count + 1 := by
  have early (index : Nat) (before : index < count) : (!accepts (answers index)) = true := by
    simp [refused index before]
  unfold attemptsMade
  by_cases accepted : accepts (answers count) = true
  · rw [List.find?_range_eq_some.mpr ⟨accepted, List.mem_range.mpr allowed, early⟩]
  · have limit := last.resolve_left accepted
    rw [List.find?_range_eq_none.mpr fun index within => ?_]
    · exact limit.symm
    · by_cases before : index < count
      · exact early index before
      · have same : index = count := by omega
        simpa [same] using accepted

theorem numbered_concat {α : Type} {number : α → Nat} {list : List α} {last : α}
    (numbered : list.map number = List.range' 1 count) (next : number last = count + 1) :
    (list ++ [last]).map number = List.range' 1 (count + 1) := by
  rw [List.map_append, numbered, List.range'_1_concat, Nat.add_comm 1 count, List.map_cons, next,
    List.map_nil]

theorem length_of_numbered {α : Type} {number : α → Nat} {list : List α}
    (numbered : list.map number = List.range' 1 count) : list.length = count := by
  have same := congrArg List.length numbered
  rwa [List.length_map, List.length_range'] at same

/-- The failures that were saved, in order. -/
def Dossier.failures (dossier : Dossier) : List DeliveryRecord :=
  dossier.saves.filter fun record => record.status = .failed

theorem Dossier.failures_saved (dossier : Dossier) (record : DeliveryRecord) :
    (dossier.saved record).failures =
      dossier.failures ++ if record.status = .failed then [record] else [] := by
  by_cases failed : record.status = .failed
  · simp [failures, saved, failed]
  · simp [failures, saved, failed]

/-- The delay after a failure, the attempt of that number, is over by this time. -/
def RestedBy (policy : RetryPolicy) (attempt : Nat) (failed : DeliveryRecord) (time : Instant) :
    Prop :=
  ∃ completed, failed.completedAt = some completed ∧
    completed.nanos + (policy.plainDelay attempt).nanos ≤ time.nanos

/-- Requests go by the schedule: they are numbered, and each waits until the failure before it has had
its delay. -/
structure Dossier.Paced (policy : RetryPolicy) (count : Nat) (dossier : Dossier) : Prop where
  numbered : dossier.sendings.map (fun sending => sending.request.attempt) = List.range' 1 count
  spaced : ∀ index failed sending, dossier.failures[index]? = some failed →
    dossier.sendings[index + 1]? = some sending →
    RestedBy policy (index + 1) failed sending.time

theorem Dossier.Paced.saved {policy : RetryPolicy} {dossier : Dossier} {record : DeliveryRecord}
    (paced : dossier.Paced policy count) (level : count ≤ dossier.failures.length + 1) :
    (dossier.saved record).Paced policy count := by
  refine ⟨paced.numbered, fun index failed sending found next => ?_⟩
  have sent : index + 1 < count := by
    have within := (List.getElem?_eq_some_iff.mp next).1
    exact length_of_numbered paced.numbered ▸ within
  rw [Dossier.failures_saved, List.getElem?_append_left (by omega)] at found
  exact paced.spaced index failed sending found next

/-- The task of a delivery and its retries, after some failed attempts. -/
def scheduledTasks (policy : RetryPolicy) (id : Uuid) (failed : Nat) : List Task :=
  .now id :: (List.range failed).map fun index => ⟨id, policy.plainDelay (index + 1)⟩

/-- What the schedule makes of a delivery: it was attempted `made` times, and this is the last answer
that it got. -/
structure Dossier.Concluded (policy : RetryPolicy) (id : Uuid) (made : Nat)
    (answer : Except DeliveryError DeliveryResponse) (dossier : Dossier) : Prop where
  requests : dossier.sendings.length = made
  paced : dossier.Paced policy made
  failures : dossier.failures.map (fun record => record.attempts) =
    List.range' 1 (if accepts answer then made - 1 else made)
  tasks : dossier.tasks = scheduledTasks policy id (made - 1)
  events : ∃ failures : List DeliveryFailed, ∃ last,
    dossier.events = failures.map .failed ++ [last] ∧
      failures.map DeliveryFailed.attemptNumber = List.range' 1 (made - 1) ∧
      if accepts answer then ∃ event, last = .succeeded event ∧ event.attemptNumber = made
      else ∃ event, last = .exhausted event ∧ event.attempts = made
  record : ∃ record, dossier.record = some record ∧
    record.status = (if accepts answer then .successful else .failed) ∧
    record.attempts = made ∧ record.responseCode = codeOf answer

end HookRelay
