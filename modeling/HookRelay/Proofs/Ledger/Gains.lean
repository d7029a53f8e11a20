import HookRelay.Proofs.Ledger.Entry
import HookRelay.Proofs.Sweep

namespace HookRelay

theorem Subscription.count?_eq_some {stored changed : Subscription} {which : Counter}
    {now : Instant} (counted : stored.count? which now = some changed) :
    changed.id = stored.id ∧ ∀ counter, changed.total counter =
      stored.total counter + if which = counter then 1 else 0 := by
  simp only [count?] at counted
  split at counted
  · cases counted
  · cases which with
    | success =>
      cases counted
      exact ⟨rfl, fun counter => by cases counter <;> rfl⟩
    | failure =>
      cases counted
      exact ⟨rfl, fun counter => by cases counter <;> rfl⟩

/-- Subscriptions are still stored, with as many more results as are counted in these entries. -/
structure MemoryStore.Gains (entered : List Entry) (before after : MemoryStore) : Prop where
  listed : after.Listed
  totals : ∀ id held, before.subscriptions.find? id = some held →
    ∃ kept, after.subscriptions.find? id = some kept ∧ ∀ counter,
      kept.total counter = held.total counter + entered.countP (Entry.counts id counter)

namespace MemoryStore

variable {store after : MemoryStore} {held subscription : Subscription} {entered : List Entry}

theorem gains_of_same (listed : store.Listed) (same : after.subscriptions = store.subscriptions)
    (uncounted : ∀ id counter, entered.countP (Entry.counts id counter) = 0) :
    store.Gains entered after := by
  refine ⟨fun id found => ?_, fun id held stored => ⟨held, same ▸ stored, fun counter => ?_⟩⟩
  · rw [same]
    exact listed id found
  · rw [uncounted, Nat.add_zero]

theorem gains_of_put (listed : store.Listed)
    (stored : store.subscriptions.find? subscription.id = some held)
    (totals : ∀ counter, subscription.total counter =
      held.total counter + entered.countP (Entry.counts subscription.id counter))
    (others : ∀ id counter, id ≠ subscription.id → entered.countP (Entry.counts id counter) = 0) :
    store.Gains entered (store.putSubscription subscription) := by
  have put (id : Uuid) : (store.putSubscription subscription).subscriptions.find? id =
      if id = subscription.id then some subscription else store.subscriptions.find? id :=
    Table.find?_put _ _ _ _
  refine ⟨fun id found same => ?_, fun id earlier before => ?_⟩
  · rw [put] at same
    split at same
    · rename_i mine
      cases same
      exact mine.symm
    · exact listed id found same
  · by_cases mine : id = subscription.id
    · subst mine
      cases stored.symm.trans before
      exact ⟨subscription, (put _).trans (if_pos rfl), totals⟩
    · refine ⟨earlier, (put _).trans ((if_neg mine).trans before), fun counter => ?_⟩
      rw [others id counter mine, Nat.add_zero]

theorem gains_of_kept (listed : store.Listed)
    (stored : store.subscriptions.find? subscription.id = some held)
    (same : ∀ counter, subscription.total counter = held.total counter) :
    store.Gains [] (store.putSubscription subscription) :=
  gains_of_put listed stored same fun _ _ _ => rfl

theorem gains_of_saveSubscription {snapshot : Subscription} (listed : store.Listed)
    (saved : store.saveSubscription snapshot = .ok after) : store.Gains [] after := by
  unfold saveSubscription at saved
  split at saved
  · cases saved
  · rename_i held stored
    cases saved
    exact gains_of_kept listed stored fun counter => by cases counter <;> rfl

theorem gains_of_increment {id : Uuid} {which : Counter} {now : Instant}
    {reply : Except StoreError Unit} (listed : store.Listed)
    (answered : store.answer? (.increment id which now) = some (reply, after)) :
    store.Gains [.asked id which reply.isOk] after := by
  simp only [answer?, increment] at answered
  cases stored : store.subscriptions.find? id with
  | none =>
    rw [stored] at answered
    cases answered
    exact gains_of_same listed rfl fun owner counter => by
      simp [Entry.counts, Except.isOk, Except.toBool]
  | some held =>
    rw [stored] at answered
    dsimp only at answered
    cases counted : held.count? which now with
    | none =>
      rw [counted] at answered
      cases answered
    | some changed =>
      rw [counted] at answered
      cases answered
      obtain ⟨same, totals⟩ := Subscription.count?_eq_some counted
      have own : changed.id = id := same.trans (listed id held stored)
      subst own
      refine gains_of_put listed stored (fun counter => ?_) fun owner counter different => ?_
      · rw [totals]
        simp [Entry.counts, Except.isOk, Except.toBool, List.countP_cons]
      · simp [Entry.counts, Ne.symm different]

/-- Whatever is asked of the store, totals grow only by what is counted. -/
theorem gains_of_answer {call : StoreCall} {reply : Except StoreError call.Reply}
    (listed : store.Listed) (answered : store.answer? call = some (reply, after)) :
    store.Gains (Answered.entry? ⟨.store call, reply⟩).toList after := by
  have still (same : after.subscriptions = store.subscriptions)
      (uncounted : ∀ id counter, (Answered.entry? ⟨.store call, reply⟩).toList.countP
        (Entry.counts id counter) = 0) :
      store.Gains (Answered.entry? ⟨.store call, reply⟩).toList after :=
    gains_of_same listed same uncounted
  cases call with
  | increment id which now => exact gains_of_increment listed answered
  | saveSubscription snapshot =>
    simp only [answer?] at answered
    cases saved : store.saveSubscription snapshot with
    | ok changed =>
      rw [saved] at answered
      cases answered
      exact gains_of_saveSubscription listed saved
    | error error =>
      rw [saved] at answered
      cases answered
      exact still rfl fun _ _ => rfl
  | clearExpiredPrevious id now =>
    rcases answer?_clearExpiredPrevious answered with ⟨_, rfl⟩ | ⟨_, held, stored, _, rfl⟩
    · exact still rfl fun _ _ => rfl
    · have own : held.id = id := listed id held stored
      subst own
      exact gains_of_kept listed stored fun counter => by cases counter <;> rfl
  | saveDelivery record =>
    refine still ?_ fun id counter => ?_
    · rcases answer?_saveDelivery answered with ⟨_, _, rfl⟩ | ⟨_, rfl⟩ <;> rfl
    · rw [List.countP_eq_zero]
      intro entry member
      simp only [Answered.entry?, Option.mem_toList] at member
      split at member <;> cases member
      exact Bool.false_ne_true
  | createDelivery record =>
    refine still ?_ fun _ _ => rfl
    rcases answer?_createDelivery answered with ⟨_, _, _, rfl⟩ | ⟨_, rfl⟩ <;> rfl
  | findSubscription id => cases answered; exact still rfl fun _ _ => rfl
  | subscriptionsForEvent eventType => cases answered; exact still rfl fun _ _ => rfl
  | subscriptionsWithPreviousSecret => cases answered; exact still rfl fun _ _ => rfl
  | findDelivery id => cases answered; exact still rfl fun _ _ => rfl

theorem Gains.trans {middle : MemoryStore} {earlier later : List Entry}
    (first : store.Gains earlier middle) (second : middle.Gains later after)
    (same : entered.Perm (later ++ earlier)) : store.Gains entered after := by
  refine ⟨second.listed, fun id held stored => ?_⟩
  obtain ⟨met, found, before⟩ := first.totals id held stored
  obtain ⟨kept, left, totals⟩ := second.totals id met found
  refine ⟨kept, left, fun counter => ?_⟩
  rw [totals, before, same.countP_eq, List.countP_append]
  omega

end MemoryStore

variable {site after : Site} {effect : Effect} {reply : effect.Reply}

/-- However an effect turns out, totals grow only by what is counted. -/
theorem Site.gains_of_turn (listed : site.store.Listed)
    (turned : Conditions.anything.Turn effect site reply after) :
    site.store.Gains (Answered.entry? ⟨effect, reply⟩).toList after.store := by
  cases effect with
  | store call =>
    rcases turned with ⟨store, answered, _, rfl⟩ | ⟨_, ⟨error, rfl⟩, rfl⟩
    · exact MemoryStore.gains_of_answer listed answered
    · refine MemoryStore.gains_of_same listed rfl fun id counter => ?_
      cases call with
      | increment owner which now =>
        simp [Answered.entry?, Entry.counts, Except.isOk, Except.toBool]
      | saveDelivery record => simp [Answered.entry?, Except.isOk, Except.toBool]
      | _ => rfl
  | queue call =>
    have same : after.store = site.store := by
      rcases turned with ⟨queue, _, _, rfl⟩ | ⟨_, _, rfl⟩ <;> rfl
    refine MemoryStore.gains_of_same listed (by rw [same]) fun id counter => ?_
    cases call with
    | enqueue task => cases reply <;> rfl
    | _ => rfl
  | now => exact MemoryStore.gains_of_same listed (by rw [turned.2]) fun _ _ => rfl
  | halt => exact turned.elim
  | _ => exact MemoryStore.gains_of_same listed (by rw [turned]) fun _ _ => rfl

/-- Subscriptions are found under their own ids, as they are stored there. -/
theorem Site.genuine_of_turn (listed : site.store.Listed)
    (turned : Conditions.anything.Turn effect site reply after) :
    Answered.Genuine ⟨effect, reply⟩ := by
  cases effect with
  | store call =>
    cases call with
    | findSubscription id =>
      rintro subscription rfl
      rcases (Conditions.turn_findSubscription turned).1 with told | ⟨error, failed, _⟩
      · exact listed id subscription (Except.ok.inj told).symm
      · cases failed
    | _ => trivial
  | _ => trivial

end HookRelay
