import HookRelay.Proofs.Dispatch.Point
import HookRelay.Proofs.Outbound.Replies

namespace HookRelay.Dispatch

open Point

variable {policy : RetryPolicy} {id : Uuid} {point after other : Point} {effect : Effect}
  {reply : effect.Reply} {program : Program Relay (Except DeliveryError Outcome)}
  {past : List Answered}

theorem Point.Goes.does (goes : Goes policy point effect reply after) : point.does = some effect := by
  cases goes <;> rfl

/-- A reply takes the work to one point only. -/
theorem Point.Goes.unique (goes : Goes policy point effect reply after)
    (another : Goes policy point effect reply other) : after = other := by
  cases goes with
  | begins prepared begins signed =>
    cases another with
    | unsigned _ refused => cases signed.symm.trans refused
    | begins _ again resigned =>
      cases begins.symm.trans again
      cases signed.symm.trans resigned
      rfl
  | accepts now accepted succeeds =>
    cases another with
    | accepts _ _ again =>
      cases succeeds.symm.trans again
      rfl
    | refuses _ refused => simp [failure?, accepted] at refused
  | refuses completed refused =>
    cases another with
    | accepts _ accepted _ => simp [failure?, accepted] at refused
    | refuses _ again =>
      cases refused.symm.trans again
      rfl
  | notices now fails =>
    cases another with
    | notices _ again =>
      cases fails.symm.trans again
      rfl
  | _ => cases another <;> first | rfl | simp_all

theorem Point.Governs.next (governs : point.Governs policy program)
    (goes : Goes policy point effect reply after) :
    ∃ rest, program = .step effect rest ∧ after.Governs policy (rest reply) := by
  cases governs with
  | ended result => cases goes
  | @step _ op rest does _ others governs =>
    cases does.symm.trans goes.does
    exact ⟨rest, rfl, goes.unique (others reply) ▸ governs reply⟩

/-- What has been answered when the work has come to a point. -/
inductive Follows (policy : RetryPolicy) (id : Uuid) : Point → List Answered → Prop where
  | called : Follows policy id (.called id) []
  | goes {point after : Point} {effect : Effect} {reply : effect.Reply} {past : List Answered}
      (follows : Follows policy id point past) (goes : Goes policy point effect reply after) :
      Follows policy id after (past ++ [⟨effect, reply⟩])

theorem Follows.left (follows : Follows policy id point past) :
    ∃ left, point.Governs policy left ∧ ∀ trail result, left.Yields trail result →
      (process policy id).result.Yields (past ++ trail) result := by
  induction follows with
  | called => exact ⟨_, governs_process policy id, fun _ _ yields => yields⟩
  | @goes _ _ _ reply past _ goes ih =>
    obtain ⟨_, governs, yields⟩ := ih
    obtain ⟨rest, rfl, further⟩ := governs.next goes
    refine ⟨rest reply, further, fun trail result yielded => ?_⟩
    rw [List.append_assoc]
    exact yields _ _ ⟨reply, rfl, yielded⟩

theorem Point.Governs.follows {trail : List Answered} {result : Except DeliveryError Outcome}
    (governs : point.Governs policy program) (follows : Follows policy id point past)
    (yields : program.Yields trail result) : Follows policy id (.ended result) (past ++ trail) := by
  induction governs generalizing past trail with
  | ended value =>
    obtain ⟨rfl, rfl⟩ := yields_done.mp yields
    rwa [List.append_nil]
  | step does after goes rest ih =>
    obtain ⟨reply, rest, rfl, later⟩ := yields_step.mp yields
    have ended := ih reply (follows.goes (goes reply)) later
    rwa [List.append_assoc] at ended

/-- What a call comes to is told by the points that it goes through. -/
theorem yields_process_iff {trail : List Answered} {result : Except DeliveryError Outcome} :
    (process policy id).result.Yields trail result ↔ Follows policy id (.ended result) trail := by
  constructor
  · exact (governs_process policy id).follows .called
  · intro follows
    obtain ⟨left, governs, yields⟩ := follows.left
    cases governs with
    | ended result =>
      have ended := yields [] result rfl
      rwa [List.append_nil] at ended
    | step does => cases does

/-- What has been answered before an attempt is begun. -/
def Begun.asked (attempt : Begun) (id : Uuid) : List Answered :=
  [.loaded id attempt.record, .subscribed attempt.record.subscriptionId attempt.subscription,
    .told attempt.prepared]

namespace Follows

variable {record : DeliveryRecord} {subscription : Subscription} {attempt : Begun}

theorem loaded (follows : Follows policy id (.loaded record) past) : past = [.loaded id record] := by
  cases follows with
  | goes follows goes =>
    cases goes with
    | loads record =>
      cases follows with
      | called => rfl
      | goes _ goes => cases goes

theorem eligible {active : subscription.isActive = true}
    {able : record.canAttempt subscription.maxAttempts = true}
    (follows : Follows policy id (.eligible subscription record active able) past) :
    past = [.loaded id record, .subscribed record.subscriptionId subscription] := by
  cases follows with
  | goes follows goes =>
    cases goes with
    | admits subscription landed active able =>
      rw [follows.loaded]
      rfl

theorem begun (follows : Follows policy id (.begun attempt) past) : past = attempt.asked id := by
  cases follows with
  | goes follows goes =>
    cases goes with
    | begins prepared begins signed =>
      rw [follows.eligible]
      rfl

theorem ready (follows : Follows policy id (.ready attempt) past) :
    past = attempt.asked id ++ [.saved attempt.begun] := by
  cases follows with
  | goes follows goes =>
    cases goes with
    | readies =>
      rw [follows.begun]
      rfl

end Follows

section Run

variable {σ : Type} {world : Program.World Relay σ} {state met : σ}
  {ending : Option (Except DeliveryError Outcome) × σ}

theorem Point.Governs.run_eq (governs : point.Governs policy program)
    (goes : Goes policy point effect reply after) (replied : world effect state = (some reply, met)) :
    ∃ left, after.Governs policy left ∧ program.run world state = left.run world met := by
  obtain ⟨rest, rfl, further⟩ := governs.next goes
  exact ⟨_, further, @Program.run_step Relay _ _ world effect _ _ reply replied rest⟩

/-- From a point on, the work ends so in a world. -/
def Point.Runs (policy : RetryPolicy) (world : Program.World Relay σ) (point : Point) (state : σ)
    (ending : Option (Except DeliveryError Outcome) × σ) : Prop :=
  ∀ program, point.Governs policy program → program.run world state = ending

theorem Point.runs_ended (result : Except DeliveryError Outcome) :
    (Point.ended result).Runs policy world state (some result, state) := by
  intro program governs
  cases governs with
  | ended result => rfl
  | step does => cases does

theorem Point.Goes.runs (goes : Goes policy point effect reply after)
    (replied : world effect state = (some reply, met)) (runs : after.Runs policy world met ending) :
    point.Runs policy world state ending := by
  intro program governs
  obtain ⟨left, further, same⟩ := governs.run_eq goes replied
  exact same.trans (runs left further)

theorem Point.runs_stopped (does : point.does = some effect)
    (silent : world effect state = (none, met)) : point.Runs policy world state (none, met) := by
  intro program governs
  cases governs with
  | ended result => cases does
  | @step _ _ rest same =>
    cases same.symm.trans does
    exact @Program.run_stopped Relay _ _ world effect _ _ silent rest

/-- What no call changes at points like this one, and at those that follow, is the same in the end. -/
theorem Point.Governs.run_keeps {kept : σ → Prop} {within : Point → Prop}
    (governs : point.Governs policy program) (arrived : within point) (start : kept state)
    (stays : ∀ point effect reply next, Goes policy point effect reply next → within point →
      within next)
    (keeps : ∀ point effect state, point.does = some effect → within point → kept state →
      kept (world effect state).2) : kept (program.run world state).2 := by
  induction governs generalizing state with
  | ended result => exact start
  | step does after goes rest ih =>
    have left := keeps _ _ _ does arrived start
    unfold Program.run
    split
    · rename_i reply middle replied
      rw [replied] at left
      exact ih reply (stays _ _ _ _ (goes reply) arrived) left
    · rename_i middle silent
      rwa [silent] at left

theorem run_process (runs : (Point.called id).Runs policy world state ending) :
    (process policy id).result.run world state = ending :=
  runs _ (governs_process policy id)

end Run

end HookRelay.Dispatch
