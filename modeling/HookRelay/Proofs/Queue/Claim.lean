import HookRelay.Memory.Queue

namespace HookRelay

namespace MemoryQueue

variable {queue after : MemoryQueue} {now : Instant}

/-- A slot is earlier than another when it is due earlier, or at the same time with the lesser id. -/
def Earlier (left right : Uuid × Slot) : Prop :=
  left.2.due < right.2.due ∨ left.2.due = right.2.due ∧ left.1.value < right.1.value

private theorem before_iff (left right : Uuid × Slot) :
    before left right = true ↔ left.2.due.nanos < right.2.due.nanos ∨
      left.2.due.nanos = right.2.due.nanos ∧ left.1.value ≤ right.1.value := by
  obtain ⟨⟨left⟩, ⟨leftDue⟩, leftLease⟩ := left
  obtain ⟨⟨right⟩, ⟨rightDue⟩, rightLease⟩ := right
  simp only [before, Bool.or_eq_true, Bool.and_eq_true, decide_eq_true_eq, Instant.mk.injEq]
  rfl

private theorem before_trans (first second third : Uuid × Slot)
    (left : before first second = true) (right : before second third = true) :
    before first third = true := by
  rw [before_iff] at *
  omega

private theorem before_total (left right : Uuid × Slot) :
    (before left right || before right left) = true := by
  rw [Bool.or_eq_true, before_iff, before_iff]
  omega

private theorem earlier_of_before {left right : Uuid × Slot} (ordered : before left right = true)
    (different : left.1 ≠ right.1) : Earlier left right := by
  rcases (before_iff left right).mp ordered with sooner | ⟨together, lesser⟩
  · exact .inl sooner
  · have apart : left.1.value ≠ right.1.value := fun same => different (Uuid.eq_of_value same)
    exact .inr ⟨Instant.eq_of_nanos together, Nat.lt_of_le_of_ne lesser apart⟩

/-- The slots that are due, in the order in which they are claimed. -/
def waiting (queue : MemoryQueue) (now : Instant) : List (Uuid × Slot) :=
  (queue.slots.rows.filter fun row => row.2.due ≤ now).mergeSort before

theorem mem_waiting (id : Uuid) (slot : Slot) :
    (id, slot) ∈ queue.waiting now ↔ queue.slots.find? id = some slot ∧ slot.due ≤ now := by
  rw [waiting, List.mem_mergeSort, List.mem_filter, Table.mem_rows_iff, decide_eq_true_eq]

private theorem waiting_ids_nodup (queue : MemoryQueue) (now : Instant) :
    ((queue.waiting now).map Prod.fst).Nodup := by
  have kept : ((queue.slots.rows.filter fun row => row.2.due ≤ now).map Prod.fst).Nodup :=
    (List.filter_sublist.map Prod.fst).nodup queue.slots.distinct
  exact ((List.mergeSort_perm _ before).map Prod.fst).nodup_iff.mpr kept

/-- No two of them are due together under one id, so their order is strict. -/
theorem waiting_pairwise (queue : MemoryQueue) (now : Instant) :
    (queue.waiting now).Pairwise Earlier := by
  have sorted : (queue.waiting now).Pairwise fun left right => before left right = true :=
    List.pairwise_mergeSort before_trans before_total _
  have distinct := List.pairwise_map.mp (waiting_ids_nodup queue now)
  exact (sorted.and distinct).imp fun both => earlier_of_before both.1 both.2

theorem claimable_eq (queue : MemoryQueue) (most : Nat) (now : Instant) :
    queue.claimable most now = ((queue.waiting now).take most).map Prod.fst := by
  rw [claimable, waiting, List.map_take]

/-- What a claim of at most `most` deliveries has to pick at `now`: those due first, in order. -/
structure Picks (queue : MemoryQueue) (most : Nat) (now : Instant)
    (picked : List (Uuid × Slot)) : Prop where
  due : ∀ row ∈ picked, queue.slots.find? row.1 = some row.2 ∧ row.2.due ≤ now
  ordered : picked.Pairwise Earlier
  length_le : picked.length ≤ most
  first : ∀ id slot, queue.slots.find? id = some slot → slot.due ≤ now → (id, slot) ∉ picked →
    picked.length = most ∧ ∀ row ∈ picked, Earlier row (id, slot)

theorem picks_waiting (queue : MemoryQueue) (most : Nat) (now : Instant) :
    queue.Picks most now ((queue.waiting now).take most) where
  due row member := (mem_waiting row.1 row.2).mp (List.mem_of_mem_take member)
  ordered := (queue.waiting_pairwise now).take
  length_le := List.length_take_le _ _
  first := by
    intro id slot found due left
    have member : (id, slot) ∈ queue.waiting now := (mem_waiting id slot).mpr ⟨found, due⟩
    rw [← List.take_append_drop most (queue.waiting now)] at member
    have dropped := (List.mem_append.mp member).resolve_left left
    constructor
    · have longer : most < (queue.waiting now).length := by
        have nonempty := List.length_pos_of_mem dropped
        rw [List.length_drop] at nonempty
        omega
      rw [List.length_take]
      omega
    · have ordered := queue.waiting_pairwise now
      rw [← List.take_append_drop most (queue.waiting now)] at ordered
      exact fun row taken => (List.pairwise_append.mp ordered).2.2 row taken _ dropped

theorem claimable_nodup (queue : MemoryQueue) (most : Nat) (now : Instant) :
    (queue.claimable most now).Nodup := by
  rw [claimable_eq, List.map_take]
  exact (List.take_sublist most _).nodup (waiting_ids_nodup queue now)

theorem due_of_mem_claimable {most : Nat} {id : Uuid} (picked : id ∈ queue.claimable most now) :
    ∃ slot, queue.slots.find? id = some slot ∧ slot.due ≤ now := by
  rw [claimable_eq] at picked
  obtain ⟨⟨other, slot⟩, member, same⟩ := List.mem_map.mp picked
  subst same
  exact ⟨slot, (mem_waiting _ _).mp (List.mem_of_mem_take member)⟩

/-- A claim that succeeds leases what it picks, and nothing else. -/
theorem claim_eq_ok {most : Nat} {lease : Duration} {leaseId : Uuid} {leases : List Lease}
    (claimed : queue.claim most lease leaseId now = .ok (leases, after)) :
    ∃ ends, dueAt now lease = .ok ends ∧
      leases = (queue.claimable most now).map (⟨·, leaseId⟩) ∧
      after.history = queue.history ∧ ∀ id, after.slots.find? id =
        if id ∈ queue.claimable most now then some ⟨ends, some leaseId⟩
        else queue.slots.find? id := by
  unfold claim at claimed
  cases reached : dueAt now lease with
  | error error => simp [reached, Except.map] at claimed
  | ok ends =>
    simp only [reached, Except.map, Except.ok.injEq, Prod.mk.injEq] at claimed
    obtain ⟨rfl, rfl⟩ := claimed
    exact ⟨ends, rfl, rfl, rfl, fun id => Table.find?_foldl_put _ _ _ _⟩

/-- What a claim makes of a queue: leases on the deliveries due first until it ends, nothing else. -/
structure Picked (queue : MemoryQueue) (most : Nat) (lease : Duration) (leaseId : Uuid)
    (now : Instant) (leases : List Lease) (after : MemoryQueue) : Prop where
  rows : ∃ rows, queue.Picks most now rows ∧ leases = rows.map fun row => ⟨row.1, leaseId⟩
  nodup : (leases.map Lease.deliveryId).Nodup
  history : after.history = queue.history
  leased : ∀ id ∈ leases.map Lease.deliveryId, ∃ ends : Instant,
    ends.nanos = now.nanos + lease.nanos ∧ after.slots.find? id = some ⟨ends, some leaseId⟩
  others : ∀ id, id ∉ leases.map Lease.deliveryId →
    after.slots.find? id = queue.slots.find? id

theorem picked_of_claim {most : Nat} {lease : Duration} {leaseId : Uuid} {leases : List Lease}
    (claimed : queue.claim most lease leaseId now = .ok (leases, after)) :
    queue.Picked most lease leaseId now leases after := by
  obtain ⟨ends, reached, returned, history, slots⟩ := claim_eq_ok claimed
  have ids : leases.map Lease.deliveryId = queue.claimable most now := by
    rw [returned, List.map_map]
    exact List.map_id _
  constructor
  · refine ⟨_, queue.picks_waiting most now, ?_⟩
    rw [returned, claimable_eq, List.map_map]
    rfl
  · rw [ids]
    exact queue.claimable_nodup most now
  · exact history
  · intro id picked
    rw [ids] at picked
    exact ⟨ends, dueAt_eq_ok reached, by rw [slots, if_pos picked]⟩
  · intro id left
    rw [ids] at left
    rw [slots, if_neg left]

theorem enqueue_cases (queue : MemoryQueue) (task : Task) (now : Instant) :
    (∃ due, dueAt now task.delay = .ok due ∧ queue.enqueue task now = (.ok (), { queue with
        slots := queue.slots.put task.deliveryId ⟨due, none⟩
        history := queue.history ++ [task] })) ∨
    ∃ reason fault, queue.enqueue task now = (.error (.queue reason), { queue with fault := fault }) := by
  unfold enqueue
  split
  · exact .inr ⟨_, _, rfl⟩
  · rename_i calm
    cases reached : dueAt now task.delay with
    | ok due => exact .inl ⟨due, rfl, rfl⟩
    | error error =>
      obtain ⟨reason, rfl⟩ := dueAt_eq_error reached
      exact .inr ⟨reason, queue.fault, rfl⟩

theorem find?_complete (queue : MemoryQueue) (lease : Lease) (id : Uuid) :
    (queue.complete lease).slots.find? id =
      if id = lease.deliveryId ∧
          ((queue.slots.find? id).bind Slot.leaseId) = some lease.leaseId then none
      else queue.slots.find? id := by
  unfold complete
  cases found : queue.slots.find? lease.deliveryId with
  | none =>
    by_cases same : id = lease.deliveryId
    · simp [same, found]
    · simp [same]
  | some slot =>
    by_cases held : slot.leaseId = some lease.leaseId
    · simp only [held, if_true, Table.find?_erase]
      by_cases same : id = lease.deliveryId
      · simp [same, found, held]
      · simp [same]
    · simp only [held, if_false]
      by_cases same : id = lease.deliveryId
      · simp [same, found, held]
      · simp [same]

@[simp] theorem history_complete (queue : MemoryQueue) (lease : Lease) :
    (queue.complete lease).history = queue.history := by
  unfold complete
  split
  · split <;> rfl
  · rfl

theorem complete_eq_self {lease : Lease}
    (stale : ((queue.slots.find? lease.deliveryId).bind Slot.leaseId) ≠ some lease.leaseId) :
    queue.complete lease = queue := by
  unfold complete
  cases found : queue.slots.find? lease.deliveryId with
  | none => rfl
  | some slot =>
    have lost : slot.leaseId ≠ some lease.leaseId := by simpa [found] using stale
    simp [lost]

end MemoryQueue

end HookRelay
