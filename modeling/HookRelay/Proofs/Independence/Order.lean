import HookRelay.Proofs.Independence.Process
import HookRelay.Proofs.Serving

/-!
Deliveries are independent of each other: whatever they share, the order in which they are worked on
changes neither what comes of any of them nor what is on the books in the end. Only a total that has
no room for all the results tells the orders apart, as it stops whichever comes too late.
-/
namespace HookRelay

namespace Verdict

variable {verdicts : Uuid → Verdict} {books : Books} {now : Instant} {id : Uuid}
  {ids rest other : List Uuid}

/-- The books with what comes of several deliveries written down, one after the other. -/
def enactEach (verdicts : Uuid → Verdict) (now : Instant) (ids : List Uuid) (books : Books) : Books :=
  ids.foldl (fun books id => (verdicts id).enact id now books) books

def raises (verdicts : Uuid → Verdict) (ids : List Uuid) (key : Uuid) (counter : Counter) : Nat :=
  ids.countP fun id => (verdicts id).counted = some (key, counter)

/-- Every total that is raised has room for all that raise it. -/
def Room (verdicts : Uuid → Verdict) (ids : List Uuid) (books : Books) : Prop :=
  ∀ key held counter, books.subscriptions key = some held → 0 < raises verdicts ids key counter →
    held.total counter + raises verdicts ids key counter ≤ Counter.greatest

theorem raises_cons (key : Uuid) (counter : Counter) :
    raises verdicts (id :: rest) key counter =
      raises verdicts rest key counter +
        if (verdicts id).counted = some (key, counter) then 1 else 0 := by
  simp [raises, List.countP_cons]

theorem room_nil : Room verdicts [] books :=
  fun _ _ _ _ raised => absurd raised (Nat.lt_irrefl 0)

theorem room_cons : Room verdicts (id :: rest) books ↔
    (verdicts id).fits books = true ∧ Room verdicts rest ((verdicts id).enact id now books) := by
  constructor
  · intro room
    constructor
    · rw [fits_iff]
      intro key counter held counted found
      have share :
          raises verdicts (id :: rest) key counter = raises verdicts rest key counter + 1 := by
        rw [raises_cons, if_pos counted]
      have all := room key held counter found (by omega)
      omega
    · intro key later counter found raised
      obtain ⟨held, stored, rfl⟩ := Option.map_eq_some_iff.mp found
      have all := room key held counter stored
      rw [raises_cons] at all
      rw [tally_total]
      omega
  · rintro ⟨fits, room⟩ key held counter found raised
    have own := fits_iff.mp fits key counter held
    have all := room key ((verdicts id).tally key now held) counter (congrArg (Option.map _) found)
    rw [tally_total] at all
    rw [raises_cons] at raised ⊢
    split at raised
    · rename_i counted
      have := own counted found
      by_cases others : 0 < raises verdicts rest key counter
      · have := all others
        rw [if_pos counted] at this ⊢
        omega
      · rw [if_pos counted]
        omega
    · rename_i uncounted
      have := all (by omega)
      rw [if_neg uncounted] at this ⊢
      omega

theorem Room.perm (room : Room verdicts ids books) (reordered : ids.Perm other) :
    Room verdicts other books := by
  intro key held counter found raised
  have same : raises verdicts other key counter = raises verdicts ids key counter :=
    (reordered.countP_eq _).symm
  rw [same] at raised ⊢
  exact room key held counter found raised

theorem enactEach_perm (reordered : ids.Perm other) :
    enactEach verdicts now ids books = enactEach verdicts now other books := by
  refine reordered.foldl_eq' (fun first _ second _ books => ?_) books
  by_cases same : first = second
  · rw [same]
  · exact enact_comm _ _ same books

end Verdict

namespace Backdrop

/-- Works on deliveries one after the other. Where the work on one is stopped, that on the next goes
on from there. -/
def processEach (backdrop : Backdrop) :
    List Uuid → Deployment → List (Uuid × Option (Except DeliveryError Outcome)) × Deployment
  | [], deployment => ([], deployment)
  | id :: rest, deployment =>
    let (result, after) := (Dispatch.process backdrop.policy id).result.run backdrop.world deployment
    let (results, last) := backdrop.processEach rest after
    ((id, result) :: results, last)

def Unstopped (results : List (Uuid × Option (Except DeliveryError Outcome))) : Prop :=
  ∀ entry ∈ results, entry.2.isSome = true

variable {backdrop : Backdrop} {deployment : Deployment} {ids other : List Uuid}

theorem unstopped_cons {id : Uuid} {result : Option (Except DeliveryError Outcome)}
    {results : List (Uuid × Option (Except DeliveryError Outcome))} :
    Unstopped ((id, result) :: results) ↔ result.isSome = true ∧ Unstopped results :=
  List.forall_mem_cons

/-- Each delivery comes to the verdict that the books had for it at the start, whatever is worked on
before; and whether any is stopped is a matter of room alone. -/
theorem processEach_verdicts {verdicts : Uuid → Verdict} (meets : backdrop.Meets deployment)
    (distinct : ids.Nodup)
    (foretold : ∀ id ∈ ids, backdrop.verdict deployment.books id = verdicts id) :
    (Unstopped (backdrop.processEach ids deployment).1 ↔ Verdict.Room verdicts ids deployment.books) ∧
    (Verdict.Room verdicts ids deployment.books →
      (backdrop.processEach ids deployment).1 = ids.map (fun id => (id, some (verdicts id).result)) ∧
      (backdrop.processEach ids deployment).2.books =
        Verdict.enactEach verdicts backdrop.now ids deployment.books) := by
  -- on the deliveries that are left: those worked on changed no verdict of the others
  induction ids generalizing deployment with
  | nil => exact ⟨⟨fun _ => Verdict.room_nil, fun _ => nofun⟩, fun _ => ⟨rfl, rfl⟩⟩
  | cons id rest ih =>
    rw [List.nodup_cons] at distinct
    obtain ⟨after, runs, ends⟩ := leads_called id deployment meets rfl
    have run := Dispatch.run_process runs
    rw [foretold id List.mem_cons_self] at run ends
    have worked : backdrop.processEach (id :: rest) deployment =
        ((id, ((verdicts id).ending id backdrop.now deployment.books).map Prod.fst) ::
          (backdrop.processEach rest after).1, (backdrop.processEach rest after).2) := by
      rw [processEach, run]
    rw [worked, unstopped_cons, Verdict.room_cons]
    by_cases fits : (verdicts id).fits deployment.books = true
    · have ended : (verdicts id).ending id backdrop.now deployment.books = some
          ((verdicts id).result, (verdicts id).enact id backdrop.now deployment.books) := if_pos fits
      obtain ⟨kept, written⟩ := ends _ _ ended
      have still : ∀ other ∈ rest, backdrop.verdict after.books other = verdicts other := by
        intro other later
        have different : other ≠ id := fun same => distinct.1 (same ▸ later)
        rw [written, verdict_enact different]
        exact foretold other (List.mem_cons_of_mem id later)
      obtain ⟨unstopped, comes⟩ := ih kept distinct.2 still
      rw [written] at unstopped comes
      rw [ended]
      refine ⟨and_congr ⟨fun _ => fits, fun _ => rfl⟩ unstopped, fun room => ?_⟩
      obtain ⟨results, books⟩ := comes room.2
      exact ⟨by rw [results]; rfl, books⟩
    · have stopped : (verdicts id).ending id backdrop.now deployment.books = none := if_neg fits
      rw [stopped]
      exact ⟨⟨fun all => absurd all.1 nofun, fun room => absurd room.1 fits⟩,
        fun room => absurd room.1 fits⟩

/-- Whatever they share, deliveries are worked on in any order with the same outcome for each, and the
same records, subscriptions and tasks on the books in the end, provided that in one of the orders no
total is found full; none is where all have room for as many results as there are deliveries. -/
theorem deliveries_independent (meets : backdrop.Meets deployment) (distinct : ids.Nodup)
    (reordered : ids.Perm other) :
    ((∀ key held counter, deployment.books.subscriptions key = some held →
        held.total counter + ids.length ≤ Counter.greatest) →
      Unstopped (backdrop.processEach ids deployment).1) ∧
    (Unstopped (backdrop.processEach ids deployment).1 →
      (backdrop.processEach ids deployment).1.Perm (backdrop.processEach other deployment).1 ∧
      (backdrop.processEach ids deployment).2.books =
        (backdrop.processEach other deployment).2.books) := by
  have unstopped_iff := (processEach_verdicts meets distinct fun _ _ => rfl).1
  refine ⟨fun ample => unstopped_iff.mpr fun key held counter found _ => ?_, fun unstopped => ?_⟩
  · have few : Verdict.raises (backdrop.verdict deployment.books) ids key counter ≤ ids.length :=
      List.countP_le_length
    have := ample key held counter found
    omega
  · have room := unstopped_iff.mp unstopped
    obtain ⟨results, books⟩ := (processEach_verdicts meets distinct fun _ _ => rfl).2 room
    obtain ⟨others, same⟩ := (processEach_verdicts meets (reordered.nodup_iff.mp distinct)
      fun _ _ => rfl).2 (room.perm reordered)
    rw [results, books, others, same]
    exact ⟨reordered.map _, Verdict.enactEach_perm reordered⟩

/-- The standard schedule and client at the start of time, with nobody to answer. -/
private def unanswered : Backdrop where
  policy := .standard
  plain := by decide +kernel
  client := .standard
  react _ := .refused
  draw _ := .zero false
  now := ⟨0⟩

private def stocked (subscription : Subscription) (records : List DeliveryRecord) : Deployment :=
  { Deployment.start (.startingAt ⟨0⟩) (.ofList []) .standard ⟨true, [], []⟩ with
    store := records.foldl .putDelivery (MemoryStore.empty.putSubscription subscription) }

private theorem putDeliveries (records : List DeliveryRecord) {store : MemoryStore}
    (filed : store.Filed) : (records.foldl .putDelivery store).Filed ∧
      (records.foldl .putDelivery store).subscriptions = store.subscriptions ∧
      (records.foldl .putDelivery store).faults = store.faults := by
  induction records generalizing store with
  | nil => exact ⟨filed, rfl, rfl⟩
  | cons record rest ih => exact ih (filed.put record)

private theorem store_stocked (subscription : Subscription) (records : List DeliveryRecord) :
    (stocked subscription records).store.Filed ∧
      (stocked subscription records).store.subscriptions =
        Table.empty.put subscription.id subscription ∧
      (stocked subscription records).store.faults = .empty :=
  putDeliveries records fun id record found => by cases found

private theorem held_of_stocked {subscription held : Subscription} {records : List DeliveryRecord}
    {key : Uuid} (found : (stocked subscription records).books.subscriptions key = some held) :
    key = subscription.id ∧ held = subscription := by
  obtain ⟨_, only, _⟩ := store_stocked subscription records
  have put : (Table.empty.put subscription.id subscription).find? key = some held := only ▸ found
  rw [Table.find?_put] at put
  split at put
  · rename_i own
    exact ⟨own, (Option.some.inj put).symm⟩
  · cases put

private theorem meets_stocked (subscription : Subscription) (records : List DeliveryRecord) :
    unanswered.Meets (stocked subscription records) := by
  obtain ⟨filed, _, faults⟩ := store_stocked subscription records
  have listed : (stocked subscription records).store.Listed := by
    intro key held found
    obtain ⟨own, same⟩ := held_of_stocked found
    rw [own, same]
  have faultless (operation : StoreOperation) :
      (stocked subscription records).store.faults.find? operation = none := by
    rw [faults]
    rfl
  have time : (ManualClock.startingAt ⟨0⟩).now = ⟨0⟩ := by decide +kernel
  exact ⟨⟨faultless, rfl, rfl, filed, listed⟩, rfl, time⟩

private def interrupted (id : Uuid) : DeliveryRecord :=
  { DeliveryRecord.pending id ⟨1⟩ "order.created" .null ⟨0⟩ with
    status := .processing
    attempts := 1 }

/-- Four deliveries of one subscription: two were interrupted, one is done with and one is new. -/
private def shared : Deployment :=
  stocked { Subscription.ofOrders with failureCount := 7 }
    [interrupted ⟨2⟩, interrupted ⟨3⟩, { interrupted ⟨4⟩ with status := .successful },
      .pending ⟨5⟩ ⟨1⟩ "order.created" .null ⟨0⟩]

private def ascending : List Uuid := [⟨2⟩, ⟨3⟩, ⟨4⟩, ⟨5⟩, ⟨6⟩]

private def shuffled : List Uuid := [⟨6⟩, ⟨3⟩, ⟨5⟩, ⟨2⟩, ⟨4⟩]

/-- A delivery that is not there is among them too. -/
theorem deliveries_independent_shared :
    unanswered.Meets shared ∧ ascending.Nodup ∧ ascending.Perm shuffled ∧
    Unstopped (unanswered.processEach ascending shared).1 ∧
    (unanswered.processEach ascending shared).1.Perm (unanswered.processEach shuffled shared).1 ∧
    (unanswered.processEach ascending shared).2.books =
      (unanswered.processEach shuffled shared).2.books := by
  have meets : unanswered.Meets shared := meets_stocked _ _
  have distinct : ascending.Nodup := by decide
  have reordered : ascending.Perm shuffled := by decide
  have independent := deliveries_independent meets distinct reordered
  have unstopped := independent.1 fun key held counter found => by
    rw [(held_of_stocked found).2]
    cases counter <;> decide
  exact ⟨meets, distinct, reordered, unstopped, independent.2 unstopped⟩

/-- One more failure fills the total, and two attempts were interrupted. -/
private def brimming : Deployment :=
  stocked { Subscription.ofOrders with maxAttempts := 1, failureCount := Counter.greatest - 1 }
    [interrupted ⟨2⟩, interrupted ⟨3⟩]

/-- Where a total has room for one result only, the delivery that comes first is exhausted and the work
on the other is stopped. -/
theorem deliveries_dependent_when_full :
    unanswered.Meets brimming ∧ [(⟨2⟩ : Uuid), ⟨3⟩].Nodup ∧ [(⟨2⟩ : Uuid), ⟨3⟩].Perm [⟨3⟩, ⟨2⟩] ∧
    (unanswered.processEach [⟨2⟩, ⟨3⟩] brimming).1 =
      [(⟨2⟩, some (.ok (.exhausted 1))), (⟨3⟩, none)] ∧
    (unanswered.processEach [⟨3⟩, ⟨2⟩] brimming).1 =
      [(⟨3⟩, some (.ok (.exhausted 1))), (⟨2⟩, none)] ∧
    ¬(unanswered.processEach [⟨2⟩, ⟨3⟩] brimming).1.Perm
      (unanswered.processEach [⟨3⟩, ⟨2⟩] brimming).1 := by
  have first : (unanswered.processEach [⟨2⟩, ⟨3⟩] brimming).1 =
      [(⟨2⟩, some (.ok (.exhausted 1))), (⟨3⟩, none)] := by decide +kernel
  have second : (unanswered.processEach [⟨3⟩, ⟨2⟩] brimming).1 =
      [(⟨3⟩, some (.ok (.exhausted 1))), (⟨2⟩, none)] := by decide +kernel
  refine ⟨meets_stocked _ _, by decide, by decide, first, second, ?_⟩
  rw [first, second]
  decide

end Backdrop

end HookRelay
