import HookRelay.Proofs.Schedule.Round
import HookRelay.Proofs.Serving

/-!
The retry schedule of a delivery that meets no faults, told in advance by the answers of its receiver:
how many requests there are, when each may be sent, what is queued and announced, and what is on
record in the end.
-/
namespace HookRelay

variable {answers : Nat → Except DeliveryError DeliveryResponse} {most count : Nat}

def Dossier.blank : Dossier := ⟨none, none, [], [], [], []⟩

/-- A delivery that waits in the queue for the delay after its last failure, or is over. -/
def Dossier.Scheduled (policy : RetryPolicy) (id : Uuid) (most : Nat) (dossier : Dossier) : Prop :=
  (∃ count due, dossier.slot = some ⟨due, none⟩ ∧ dossier.Waits policy id most count due) ∨
    dossier.Over policy id most

theorem Dossier.scheduled_of_accepted {policy : RetryPolicy} {id owner : Uuid} {eventType : String}
    {payload : Json.Value} {now due : Instant} :
    ((blank.created (.pending id owner eventType payload now)).scheduled (.now id) due).Scheduled
      policy id most := by
  refine .inl ⟨0, due, rfl, ?_⟩
  constructor
  · omega
  · refine ⟨rfl, fun index failed sending found => ?_⟩
    simp [Dossier.failures, scheduled, created, blank] at found
  · exact fun sending member => absurd member List.not_mem_nil
  · rfl
  · exact fun index failed same => by omega
  · rfl
  · exact ⟨[], rfl, rfl⟩
  · exact ⟨_, rfl, rfl, rfl, .inl ⟨rfl, rfl⟩⟩

/-- One worker takes a delivery from delay to delay, whatever else it has to do. -/
theorem Dossier.Scheduled.upkeep {policy : RetryPolicy} (id : Uuid)
    (plain : Binary64.le policy.jitter (.zero false) = true)
    (bounded : most ≤ DeliveryRecord.greatestAttempts) :
    Upkeep (.flawless id most) policy id (fun _ dossier => dossier.Scheduled policy id most)
      (fun now dossier => (∃ count, dossier.Waits policy id most count now) ∨
        dossier.Over policy id most) where
  holds _ _ _ _ scheduled := scheduled
  waits now later dossier passed claimed := by
    rcases claimed with ⟨count, waits⟩ | finished
    · exact .inl ⟨count, waits.later passed⟩
    · exact .inr finished
  claims now dossier slot ends leaseId scheduled found due := by
    rcases scheduled with ⟨count, rested, free, waits⟩ | finished
    · cases free.symm.trans found
      exact .inl ⟨count, (waits.later due).of_slot _⟩
    · exact .inr (finished.of_slot _)
  drops breaks := (breaks : False).elim
  concludes since now start dossier result claimed passed concludes := by
    rcases claimed with ⟨count, waits⟩ | finished
    · rcases waits.of_concludes plain bounded concludes with ⟨due, free, waits⟩ | finished
      · refine ⟨.inl ⟨_, due, free, waits⟩, fun _ lease => .inl ⟨_, due, ?_, waits.of_slot _⟩⟩
        show (if dossier.slot.bind Slot.leaseId = some lease.leaseId then none else dossier.slot) = _
        rw [free]
        rfl
      · exact ⟨.inr finished, fun _ lease => .inr (finished.of_slot _)⟩
    · have finished := finished.of_concludes concludes
      exact ⟨.inr finished, fun _ lease => .inr (finished.of_slot _)⟩

private theorem blank_upkeep (policy : RetryPolicy) (id : Uuid) (most : Nat) :
    Upkeep (.flawless id most) policy id (fun _ dossier => dossier = .blank) (fun _ _ => False) where
  holds _ _ _ _ blank := blank
  waits _ _ _ _ claimed := claimed
  claims _ _ _ _ _ blank found _ := by
    rw [blank] at found
    cases found
  drops _ _ _ _ _ claimed := claimed.elim
  concludes _ _ _ _ _ claimed := claimed.elim

namespace Course

variable {policy : RetryPolicy} {first site after : Site} {accepted : List Uuid} {id : Uuid}

/-- A delivery is on schedule from when it is accepted, and unheard of before. -/
private def Follows (policy : RetryPolicy) (id : Uuid) (most : Nat) (accepted : List Uuid)
    (dossier : Dossier) : Prop :=
  (id ∈ accepted ∧ dossier.Scheduled policy id most) ∨ (id ∉ accepted ∧ dossier = .blank)

private theorem follows_of_enqueues {result : Except DeliveryError Uuid}
    (follows : Follows policy id most accepted (site.dossier id))
    (enqueues : site.Enqueues (.flawless id most) result after) :
    Follows policy id most (accepted ++ acceptedIn (some result)) (after.dossier id) := by
  cases enqueues with
  | @accepted new after accepts =>
    by_cases mine : id = new
    · subst mine
      refine .inl ⟨List.mem_append_right _ (List.mem_singleton.mpr rfl), ?_⟩
      rcases follows with ⟨_, ⟨count, due, _, waits⟩ | finished⟩ | ⟨_, blank⟩
      · obtain ⟨held, stored, _⟩ := waits.record
        cases accepts.fresh.symm.trans stored
      · obtain ⟨held, stored, _⟩ := finished.record
        cases accepts.fresh.symm.trans stored
      · obtain ⟨owner, eventType, payload, now, due, dossier⟩ := accepts.accepted
        rw [dossier, blank]
        exact Dossier.scheduled_of_accepted
    · rw [accepts.others id mine]
      rcases follows with ⟨member, scheduled⟩ | ⟨absent, blank⟩
      · exact .inl ⟨List.mem_append_left _ member, scheduled⟩
      · refine .inr ⟨fun member => ?_, blank⟩
        rcases List.mem_append.mp member with before | new
        · exact absent before
        · exact mine (List.mem_singleton.mp new)
  | refused same =>
    rw [same id]
    show Follows policy id most (accepted ++ []) _
    rwa [List.append_nil]
  | stranded fault creates => exact (fault : False).elim

private theorem follows (plain : Binary64.le policy.jitter (.zero false) = true)
    (bounded : most ≤ DeliveryRecord.greatestAttempts) (orderly : first.Orderly (.flawless id most))
    (blank : first.dossier id = .blank)
    (course : Course (.flawless id most) policy first accepted site) :
    site.Orderly (.flawless id most) ∧ Follows policy id most accepted (site.dossier id) := by
  induction course with
  | start => exact ⟨orderly, .inr ⟨nofun, blank⟩⟩
  | meanwhile course drift ih =>
    refine ⟨ih.1.drift drift, ?_⟩
    rw [drift.1 id trivial]
    exact ih.2
  | @enqueue accepted site after subscription eventType payload result course run ih =>
    have ended := run.heeded (Dispatch.enqueue_heeds subscription eventType payload ih.1)
    cases result with
    | some result =>
      obtain ⟨orderly, _, enqueues⟩ := ended
      exact ⟨orderly, follows_of_enqueues ih.2 enqueues⟩
    | none => exact (run.allowed rfl : False).elim
  | batch course run ih =>
    obtain ⟨orderly, ⟨member, scheduled⟩ | ⟨absent, blank⟩⟩ := ih
    · have upkeep := Dossier.Scheduled.upkeep id plain bounded
      obtain ⟨orderly, kept⟩ := upkeep.kept_of_batch orderly scheduled run
      exact ⟨orderly, .inl ⟨member, kept⟩⟩
    · obtain ⟨orderly, kept⟩ := (blank_upkeep policy id most).kept_of_batch orderly blank run
      exact ⟨orderly, .inr ⟨absent, kept⟩⟩

/-- Once it has left the queue, a delivery that met no faults has been through the schedule that the
answers of its receiver make. -/
theorem concluded_of_drained (plain : Binary64.le policy.jitter (.zero false) = true)
    (bounded : most ≤ DeliveryRecord.greatestAttempts) (orderly : first.Orderly (.flawless id most))
    (blank : first.dossier id = .blank)
    (course : Course (.flawless id most) policy first accepted site) (member : id ∈ accepted)
    (answered : ∀ index sending, (site.dossier id).sendings[index]? = some sending →
      sending.answer = answers index)
    (drained : site.queue.slots.find? id = none) :
    (site.dossier id).Concluded policy id (attemptsMade answers most)
      (answers (attemptsMade answers most - 1)) := by
  obtain ⟨_, ⟨_, ⟨count, due, free, _⟩ | finished⟩ | ⟨absent, _⟩⟩ :=
    course.follows plain bounded orderly blank
  · cases drained.symm.trans free
  · obtain ⟨count, earlier, sending, sent, length, refused, left, last, concluded⟩ :=
      finished.concluded
    have final : sending.answer = answers count := by
      apply answered count
      rw [sent, ← length]
      exact List.getElem?_concat_length
    have early (index : Nat) (before : index < count) : accepts (answers index) = false := by
      rw [← length] at before
      rw [← answered index earlier[index] (by
        rw [sent, List.getElem?_append_left before]
        exact List.getElem?_eq_getElem before)]
      exact refused _ (List.getElem_mem before)
    rw [final] at last concluded
    rw [attemptsMade_eq early left last]
    exact concluded
  · exact absurd member absent

private theorem meets_of_ready (site : Site) (found : site.findsAll (·.isReady) = true) :
    (Conditions.flawless ⟨0⟩ 2).Meets site :=
  Site.meets_of_findsAll (fun _ _ subscription ready _ =>
    ⟨subscription, rfl, Subscription.isReady_iff.mp ready⟩) found

private def recovering : Nat → Except DeliveryError DeliveryResponse
  | 0 => .ok ⟨500, ""⟩
  | _ => .ok ⟨200, ""⟩

private abbrev world : Program.World Relay Site := Site.serve recovering (Site.findsAll (·.isReady))

private theorem runs_ready {α : Type} (program : Program Relay α) (site : Site)
    (ended : (program.run world site).1.isSome = true) :
    program.Runs (Conditions.flawless ⟨0⟩ 2).alone site (program.run world site).1
      (program.run world site).2 :=
  Site.runs_serve recovering _ meets_of_ready fun stopped => by simp [stopped] at ended

private def sold : Option (Except DeliveryError Uuid) × Site :=
  (Dispatch.enqueue .ofOrders "order.created" .null).result.run world (.opened .ofOrders)

private def refused : Option (Except DeliveryError Nat) × Site :=
  (Worker.batch .standard .standard).result.run world sold.2

/-- A hundred seconds later; the delay is sixty. -/
private def rested : Site := { refused.2 with time := .ofSeconds 100 }

private def delivered : Option (Except DeliveryError Nat) × Site :=
  (Worker.batch .standard .standard).result.run world rested

theorem concluded_after_refusal : ∃ site,
    Course (.flawless ⟨0⟩ 2) .standard (.opened .ofOrders) [⟨0⟩] site ∧
      site.queue.slots.find? ⟨0⟩ = none ∧
      (site.dossier ⟨0⟩).Concluded .standard ⟨0⟩ 2 (.ok ⟨200, ""⟩) := by
  have enqueue := runs_ready (Dispatch.enqueue .ofOrders "order.created" .null).result
    (.opened .ofOrders) (by decide +kernel)
  have first := runs_ready (Worker.batch .standard .standard).result sold.2 (by decide +kernel)
  have second := runs_ready (Worker.batch .standard .standard).result rested (by decide +kernel)
  have later : refused.2.time ≤ rested.time := by decide +kernel
  have waited : (Conditions.flawless ⟨0⟩ 2).alone.drift refused.2 rested :=
    ⟨fun _ _ => rfl, later, fun meets => meets⟩
  have course := Course.batch (.meanwhile (.batch (.enqueue .start enqueue) first) waited) second
  have accepted : acceptedIn sold.1 = [⟨0⟩] := by decide +kernel
  change Course _ _ _ (acceptedIn sold.1) delivered.2 at course
  rw [accepted] at course
  have answers : (delivered.2.dossier ⟨0⟩).sendings.map Sending.answer =
      [recovering 0, recovering 1] := by decide +kernel
  have answered (index : Nat) (sending : Sending)
      (found : (delivered.2.dossier ⟨0⟩).sendings[index]? = some sending) :
      sending.answer = recovering index := by
    have same : [recovering 0, recovering 1][index]? = some sending.answer := by
      rw [← answers, List.getElem?_map, found]
      rfl
    match index with
    | 0 => exact (Option.some.inj same).symm
    | 1 => exact (Option.some.inj same).symm
    | more + 2 => cases same
  have drained : delivered.2.queue.slots.find? ⟨0⟩ = none := by decide +kernel
  exact ⟨delivered.2, course, drained, course.concluded_of_drained rfl (by decide)
    (Site.orderly_opened _ _) rfl (List.mem_singleton.mpr rfl) answered drained⟩

end Course

end HookRelay
