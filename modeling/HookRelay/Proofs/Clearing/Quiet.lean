import HookRelay.Proofs.Clearing.Amid

namespace HookRelay.Sweep

open HookRelay.Action

/-- Nobody edits subscriptions, and no clearing is made to fail. -/
structure Quiet (deployment : Deployment) : Prop where
  listed : deployment.store.Listed
  sound : deployment.store.faults.find? .clearExpiredPrevious = none
  unedited : deployment.awaitedEdit = none

def withSubscriptions (deployment : Deployment) (subscriptions : Table Uuid Subscription) :
    Deployment :=
  { deployment with store := { deployment.store with subscriptions := subscriptions } }

/-- Subscriptions as a sweep leaves them: all whose previous secret was spent are cleared, and no others
change. -/
structure Cleans (now : Instant) (stored left : Table Uuid Subscription) : Prop where
  spent : ∀ id before, stored.find? id = some before → before.Spent now →
    left.find? id = some (before.withoutPrevious now)
  others : ∀ id, (∀ before, stored.find? id = some before → ¬before.Spent now) →
    left.find? id = stored.find? id

namespace Cleans

variable {now : Instant} {stored left : Table Uuid Subscription} {id : Uuid} {after : Subscription}

theorem cases (cleans : Cleans now stored left) (found : left.find? id = some after) :
    (∃ before, stored.find? id = some before ∧ before.Spent now ∧
      after = before.withoutPrevious now) ∨ stored.find? id = some after ∧ ¬after.Spent now := by
  cases held : stored.find? id with
  | none =>
    have same := cleans.others id fun before other => by
      rw [held] at other
      cases other
    rw [held, found] at same
    cases same
  | some before =>
    by_cases due : before.Spent now
    · cases (cleans.spent id before held due).symm.trans found
      exact .inl ⟨before, rfl, due, rfl⟩
    · have same := cleans.others id fun other found => by
        cases held.symm.trans found
        exact due
      rw [held, found] at same
      cases same
      exact .inr ⟨rfl, due⟩

theorem idle (cleans : Cleans now stored left) (found : left.find? id = some after) :
    ¬after.Spent now := by
  rcases cleans.cases found with ⟨before, _, _, rfl⟩ | ⟨_, undue⟩
  · exact fun due => Bool.false_ne_true due.held
  · exact undue

theorem activeSecrets (cleans : Cleans now stored left) {before : Subscription} {time : Instant}
    (found : stored.find? id = some before) (kept : left.find? id = some after)
    (passed : now ≤ time) : after.activeSecrets time = before.activeSecrets time := by
  rcases cleans.cases kept with ⟨other, held, due, rfl⟩ | ⟨held, _⟩
  · cases held.symm.trans found
    exact due.activeSecrets passed
  · cases held.symm.trans found
    rfl

end Cleans

variable {deployment : Deployment} {candidates : List Subscription} {candidate : Subscription}
  {now : Instant}

private theorem answer_clear (sound : deployment.store.faults.find? .clearExpiredPrevious = none)
    (stored : deployment.store.subscriptions.find? candidate.id = some candidate)
    (spent : candidate.Spent now) :
    deployment.answer (.store (.clearExpiredPrevious candidate.id now)) = (some (.ok true),
      withSubscriptions deployment (deployment.store.subscriptions.put candidate.id
        (candidate.withoutPrevious now))) := by
  rw [Deployment.answer_store fun operation named => by cases named; exact sound]
  simp only [MemoryStore.answer?, MemoryStore.clearExpiredPrevious, stored, spent.expired, if_true]
  rfl

private theorem run_clearEach
    (sound : deployment.store.faults.find? .clearExpiredPrevious = none)
    (distinct : (candidates.map Subscription.id).Nodup)
    (stored : ∀ candidate ∈ candidates,
      deployment.store.subscriptions.find? candidate.id = some candidate) :
    ∃ subscriptions, (clearEach now candidates).run Deployment.answer deployment =
        (some (candidates.countP (isDue · now)), withSubscriptions deployment subscriptions) ∧
      (∀ candidate ∈ candidates, candidate.Spent now →
        subscriptions.find? candidate.id = some (candidate.withoutPrevious now)) ∧
      ∀ id, (∀ candidate ∈ candidates, candidate.Spent now → candidate.id ≠ id) →
        subscriptions.find? id = deployment.store.subscriptions.find? id := by
  induction candidates generalizing deployment with
  | nil => exact ⟨_, rfl, List.forall_mem_nil _, fun _ _ => rfl⟩
  | cons candidate rest ih =>
    obtain ⟨storedFirst, storedRest⟩ := List.forall_mem_cons.mp stored
    rw [List.map_cons, List.nodup_cons] at distinct
    unfold clearEach
    split
    · rename_i due
      have spent := (candidate.isDue_iff now).mp due
      have apart {other : Subscription} (member : other ∈ rest) : other.id ≠ candidate.id :=
        fun same => distinct.1 (List.mem_map.mpr ⟨other, member, same⟩)
      let next := withSubscriptions deployment (deployment.store.subscriptions.put candidate.id
        (candidate.withoutPrevious now))
      have put (id : Uuid) : next.store.subscriptions.find? id = if id = candidate.id then
          some (candidate.withoutPrevious now) else deployment.store.subscriptions.find? id :=
        Table.find?_put _ _ _ _
      obtain ⟨subscriptions, ran, clears, others⟩ := @ih next sound distinct.2
        fun other member => (put other.id).trans ((if_neg (apart member)).trans
          (storedRest other member))
      refine ⟨subscriptions, ?_, List.forall_mem_cons.mpr ⟨fun _ => ?_, clears⟩, fun id alone => ?_⟩
      · rw [List.countP_cons, if_pos due]
        refine (Program.run_step (answer_clear sound storedFirst spent) _).trans ?_
        exact (Program.run_bind _ (clearEach now rest) _ next).trans (by rw [ran]; rfl)
      · exact (others candidate.id fun other member _ => apart member).trans
          ((put candidate.id).trans (if_pos rfl))
      · obtain ⟨first, later⟩ := List.forall_mem_cons.mp alone
        exact (others id later).trans ((put id).trans (if_neg (first spent).symm))
    · rename_i idle
      obtain ⟨subscriptions, ran, spent, others⟩ := ih sound distinct.2 storedRest
      refine ⟨subscriptions, ?_, List.forall_mem_cons.mpr ⟨fun due => ?_, spent⟩, fun id apart => ?_⟩
      · rw [ran, List.countP_cons, if_neg idle, Nat.add_zero]
      · exact absurd ((candidate.isDue_iff now).mpr due) idle
      · exact others id (List.forall_mem_cons.mp apart).2

private theorem run_once (quiet : Quiet deployment) :
    ∃ subscriptions, deployment.run once =
        (some (.ok (deployment.store.subscriptions.values.countP (isDue · deployment.clock.now))),
          withSubscriptions deployment subscriptions) ∧
      Cleans deployment.clock.now deployment.store.subscriptions subscriptions := by
  let candidates := deployment.store.subscriptions.values.filter fun subscription =>
    subscription.previousSecret.isSome
  have loaded : deployment.answer (.store .subscriptionsWithPreviousSecret) =
      (some (.ok candidates), deployment) := rfl
  have read := Deployment.answer_now quiet.unedited
  have stored (subscription : Subscription) (member : subscription ∈ candidates) :
      deployment.store.subscriptions.find? subscription.id = some subscription :=
    (quiet.listed.mem_values_iff subscription).mp (List.mem_filter.mp member).1
  obtain ⟨subscriptions, ran, spent, others⟩ := @run_clearEach deployment candidates
    deployment.clock.now quiet.sound ((List.filter_sublist.map _).nodup quiet.listed.ids_nodup) stored
  have counted : candidates.countP (isDue · deployment.clock.now) =
      deployment.store.subscriptions.values.countP (isDue · deployment.clock.now) := by
    rw [List.countP_filter]
    refine List.countP_congr fun subscription _ => ?_
    rw [Bool.and_eq_true]
    refine and_iff_left_of_imp fun due => ?_
    exact ((subscription.isDue_iff _).mp due).held
  refine ⟨subscriptions, ?_, fun id before found due => ?_, fun id idle => ?_⟩
  · rw [← counted, Deployment.run, once, result_store_bind]
    refine (Program.run_step loaded _).trans ((Program.run_step read _).trans ?_)
    exact (Program.run_bind _ (clearEach deployment.clock.now candidates) _ deployment).trans
      (by rw [ran]; rfl)
  · cases quiet.listed id before found
    refine spent before (List.mem_filter.mpr ⟨?_, due.held⟩) due
    exact (quiet.listed.mem_values_iff before).mpr found
  · refine others id fun candidate member due same => ?_
    exact idle candidate (same ▸ stored candidate member) due

/-- What a quiet sweep leaves: it clears all previous secrets in order that have expired, as their
subscriptions would be cleared in memory, counts them, and leaves nothing to the next sweep. Whoever
could sign at its time or later still can, and nobody else. -/
structure Tidied (deployment : Deployment) (count : Nat) (subscriptions : Table Uuid Subscription) :
    Prop where
  counted : ∃ ids : List Uuid, ids.Nodup ∧ count = ids.length ∧ ∀ id, id ∈ ids ↔
    ∃ before, deployment.store.subscriptions.find? id = some before ∧
      before.Spent deployment.clock.now
  spent : ∀ id before, deployment.store.subscriptions.find? id = some before →
    before.Spent deployment.clock.now → ∃ left, subscriptions.find? id = some left ∧
      before.clearExpired deployment.clock.now = .ok (some left)
  others : ∀ id, (∀ before, deployment.store.subscriptions.find? id = some before →
      ¬before.Spent deployment.clock.now) →
    subscriptions.find? id = deployment.store.subscriptions.find? id
  signers : ∀ id before left, deployment.store.subscriptions.find? id = some before →
    subscriptions.find? id = some left → ∀ time, deployment.clock.now ≤ time →
      left.activeSecrets time = before.activeSecrets time
  again : ∃ later, (withSubscriptions deployment subscriptions).run once =
      (some (.ok 0), withSubscriptions deployment later) ∧
    ∀ id, later.find? id = subscriptions.find? id

private theorem counted_due {store : MemoryStore} (listed : store.Listed) (now : Instant) :
    ∃ ids : List Uuid, ids.Nodup ∧
      store.subscriptions.values.countP (isDue · now) = ids.length ∧
      ∀ id, id ∈ ids ↔ ∃ before, store.subscriptions.find? id = some before ∧ before.Spent now := by
  refine ⟨(store.subscriptions.values.filter (isDue · now)).map Subscription.id,
    (List.filter_sublist.map _).nodup listed.ids_nodup, ?_, fun id => ?_⟩
  · rw [List.length_map, List.countP_eq_length_filter]
  · rw [List.mem_map]
    constructor
    · rintro ⟨before, member, rfl⟩
      obtain ⟨held, due⟩ := List.mem_filter.mp member
      exact ⟨before, (listed.mem_values_iff before).mp held, (before.isDue_iff _).mp due⟩
    · rintro ⟨before, found, due⟩
      cases listed id before found
      exact ⟨before, List.mem_filter.mpr ⟨(listed.mem_values_iff before).mpr found,
        (before.isDue_iff _).mpr due⟩, rfl⟩

variable {subscriptions : Table Uuid Subscription}

private theorem quiet_of_cleans (quiet : Quiet deployment)
    (cleans : Cleans deployment.clock.now deployment.store.subscriptions subscriptions) :
    Quiet (withSubscriptions deployment subscriptions) := by
  refine ⟨fun id left found => ?_, quiet.sound, quiet.unedited⟩
  rcases cleans.cases found with ⟨before, held, _, rfl⟩ | ⟨held, _⟩
  · exact quiet.listed id before held
  · exact quiet.listed id left held

private theorem run_again (quiet : Quiet deployment)
    (cleans : Cleans deployment.clock.now deployment.store.subscriptions subscriptions) :
    ∃ later, (withSubscriptions deployment subscriptions).run once =
        (some (.ok 0), withSubscriptions deployment later) ∧
      ∀ id, later.find? id = subscriptions.find? id := by
  have still := quiet_of_cleans quiet cleans
  obtain ⟨later, ran, same⟩ := run_once still
  have none : (withSubscriptions deployment subscriptions).store.subscriptions.values.countP
      (isDue · (withSubscriptions deployment subscriptions).clock.now) = 0 :=
    List.countP_eq_zero.mpr fun left member due =>
      cleans.idle ((still.listed.mem_values_iff left).mp member) ((left.isDue_iff _).mp due)
  refine ⟨later, ?_, fun id => same.others id fun left found => cleans.idle found⟩
  rw [ran, none]
  rfl

theorem tidied_of_quiet (quiet : Quiet deployment) : ∃ count subscriptions,
    deployment.run once = (some (.ok count), withSubscriptions deployment subscriptions) ∧
      Tidied deployment count subscriptions := by
  obtain ⟨subscriptions, ran, cleans⟩ := run_once quiet
  refine ⟨_, subscriptions, ran, counted_due quiet.listed _, fun id before found due => ?_,
    cleans.others, fun id before left found kept time => cleans.activeSecrets found kept,
    run_again quiet cleans⟩
  exact ⟨_, cleans.spent id before found due, due.clearExpired⟩

end HookRelay.Sweep
