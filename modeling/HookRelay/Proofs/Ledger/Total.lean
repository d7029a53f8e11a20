import HookRelay.Proofs.Ledger.Crew

namespace HookRelay.Crew

variable {site : Site} {last : Crew}

/-- What was asked to be counted was counted, or that failed. -/
theorem countP_asks (entered : List Entry) (owner : Uuid) (counter : Counter) :
    entered.countP (Entry.asks owner counter) =
      entered.countP (Entry.counts owner counter) +
        entered.countP (Entry.misses owner counter) := by
  induction entered with
  | nil => rfl
  | cons entry rest ih =>
    rw [List.countP_cons, List.countP_cons, List.countP_cons, ih]
    cases entry with
    | asked id which counted =>
      cases counted <;> simp [Entry.asks, Entry.counts, Entry.misses] <;> omega
    | _ => rfl

/-- When all work is over, the totals of every subscription have grown by its results, but for those
whose count failed; stored failures are retried, reported or stranded; and statistics are those of
the results and of what was announced. -/
theorem adds_up (listed : site.store.Listed)
    (run : Relation.ReflTransGen Step (resting site) last) (ended : ∀ job ∈ last.jobs, job.Over) :
    (∀ id before, site.store.subscriptions.find? id = some before →
      ∃ after, last.site.store.subscriptions.find? id = some after ∧
        after.successCount + last.entries.countP (Entry.misses id .success) =
          before.successCount + last.results.countP (Tallied.deliveredFor id) ∧
        after.failureCount + last.entries.countP (Entry.misses id .failure) =
          before.failureCount + last.entries.countP (Entry.fails id)) ∧
    last.entries.countP Entry.isFailed =
      last.entries.countP (Entry.announces DeliveryEvent.isFailed) +
        last.entries.countP (Entry.announces DeliveryEvent.isExhausted) +
        last.entries.countP Entry.isStranded ∧
    last.stats.processed = last.stats.succeeded + last.stats.failed + last.stats.errors +
      last.results.countP (fun tallied => Worker.isSkipped tallied.2) ∧
    last.stats.succeeded = last.entries.countP (Entry.announces DeliveryEvent.isSucceeded) ∧
    last.stats.failed = last.entries.countP (Entry.announces DeliveryEvent.isFailed) +
      last.entries.countP (Entry.announces DeliveryEvent.isExhausted) := by
  have sound := (Sound.resting listed).run run
  have balanced := sound.balanced ended
  obtain ⟨processed, succeeded, failed, errors⟩ := sound.stats
  refine ⟨fun id before stored => ?_, balanced.settled, ?_, ?_, ?_⟩
  · obtain ⟨after, found, totals⟩ := sound.gains.totals id before stored
    have successes : after.successCount = before.successCount + _ := totals .success
    have failures : after.failureCount = before.failureCount + _ := totals .failure
    have asked := balanced.successes id
    have lost := balanced.failures id
    rw [countP_asks] at asked lost
    refine ⟨after, found, ?_, ?_⟩
    · omega
    · omega
  · rw [processed, succeeded, failed, errors]
    exact length_eq_of_kinds last.results
  · rw [succeeded, balanced.succeeded]
  · rw [failed, balanced.failed]

private def stocked : Site :=
  { Site.untried .ofOrders .null with queue := (MemoryQueue.empty.enqueue (.now ⟨0⟩) ⟨0⟩).2 }

private theorem listed_stocked : stocked.store.Listed := MemoryStore.listed_empty.put rfl

private def answers : Nat → Except DeliveryError DeliveryResponse
  | 0 => .ok ⟨500, ""⟩
  | _ => .ok ⟨200, ""⟩

/-- Failures cannot be counted. -/
private def losesCount : StoreCall → Site → Bool
  | .increment _ counter _, _ => counter = .failure
  | _, _ => false

/-- The first attempt is refused and the second accepted. -/
private abbrev hindered : Program.World Relay Site :=
  Site.serveUnless losesCount answers fun _ => true

/-- Where a crew is at work, and what it has noted so far. -/
private abbrev Scene := Site × WorkerStats

/-- What is tallied is noted. -/
private def noting : Program.World Relay Scene := fun effect (met, stats) =>
  match hindered effect met with
  | (none, after) => (none, after, stats)
  | (some reply, after) =>
    match stats.note? ⟨effect, reply⟩ with
    | some counted => (some reply, after, counted)
    | none => (none, after, stats)

private theorem noting_eq_some {effect : Effect} {reply : effect.Reply} {scene after : Scene}
    (answered : noting effect scene = (some reply, after)) :
    Conditions.anything.Turn effect scene.1 reply after.1 ∧
      scene.2.note? ⟨effect, reply⟩ = some after.2 := by
  obtain ⟨met, stats⟩ := scene
  cases served : hindered effect met with
  | mk given left =>
    cases given with
    | none =>
      simp only [noting, served] at answered
      cases answered
    | some told =>
      cases noted : stats.note? ⟨effect, told⟩ with
      | none =>
        simp only [noting, served, noted] at answered
        cases answered
      | some counted =>
        simp only [noting, served, noted] at answered
        cases answered
        exact ⟨(Site.turn_of_serveUnless trivial (fun _ _ _ _ _ => trivial) served).1, noted⟩

private theorem reaches_over {α : Type} (program : Program Relay α) {scene : Scene}
    (ended : (program.run noting scene).1.isSome = true) (jobs : List Job)
    (past : List Answered) : ∃ trail value,
      Relation.ReflTransGen Step ⟨scene.1, scene.2, jobs ++ [⟨α, past, program⟩]⟩
        ⟨(program.run noting scene).2.1, (program.run noting scene).2.2,
          jobs ++ [⟨α, trail, .done value⟩]⟩ := by
  induction program generalizing scene past with
  | done value => exact ⟨past, value, .refl⟩
  | step effect next ih =>
    simp only [Program.run] at ended ⊢
    split
    · rename_i reply after answered
      rw [answered] at ended
      obtain ⟨turned, noted⟩ := noting_eq_some answered
      obtain ⟨trail, value, run⟩ := ih reply ended (past ++ [⟨effect, reply⟩])
      exact ⟨trail, value, .head (.turn turned noted) run⟩
    · rename_i after silent
      rw [silent] at ended
      cases ended

/-- A crew has come to a scene, and all its work is over. -/
private def Arrives (scene : Scene) : Prop :=
  ∃ jobs, Relation.ReflTransGen Step (resting stocked) ⟨scene.1, scene.2, jobs⟩ ∧
    ∀ job ∈ jobs, job.Over

private theorem Arrives.shift {α : Type} {program : Program Relay α} {scene : Scene}
    (arrives : Arrives scene) (shift : Shift program)
    (ended : (program.run noting scene).1.isSome = true) :
    Arrives (program.run noting scene).2 := by
  obtain ⟨jobs, run, settled⟩ := arrives
  obtain ⟨trail, value, further⟩ := reaches_over program ended jobs []
  refine ⟨_, (run.tail (.start shift)).trans further, fun job member => ?_⟩
  rcases List.mem_append.mp member with held | new
  · exact settled job held
  · cases List.mem_singleton.mp new
    exact ⟨value, rfl⟩

private def attempted (scene : Scene) : Scene :=
  ((Worker.batch .standard .standard).result.run noting scene).2

/-- An owner saves the subscription as it was, with totals of its own, and some time goes by. -/
private def resaved (scene : Scene) : Scene :=
  let snapshot := { Subscription.ofOrders with successCount := 9, failureCount := 7 }
  ({ scene.1 with
    time := .ofSeconds 100
    store := (scene.1.store.saveSubscription snapshot).toOption.getD scene.1.store }, scene.2)

private theorem Arrives.resaved {scene : Scene} (arrives : Arrives scene)
    (known : (scene.1.store.subscriptions.find? Subscription.ofOrders.id).isSome = true) :
    Arrives (Crew.resaved scene) := by
  obtain ⟨jobs, run, settled⟩ := arrives
  obtain ⟨held, stored⟩ := Option.isSome_iff_exists.mp known
  have saved : scene.1.store.saveSubscription
      { Subscription.ofOrders with successCount := 9, failureCount := 7 } =
        .ok (Crew.resaved scene).1.store := by
    simp [Crew.resaved, MemoryStore.saveSubscription, stored, Except.toOption]
  exact ⟨jobs, (run.tail (.save saved)).tail (.outside rfl), settled⟩

private def swept (scene : Scene) : Scene := (Sweep.once.result.run noting scene).2

private def started : Scene := (stocked, .zero)

private def finished : Scene := swept (attempted (resaved (attempted started)))

/-- A failure that could not be counted, a success, and a save that would have other totals. -/
theorem adds_up_uncounted : ∃ site last after, site.store.Listed ∧
    Relation.ReflTransGen Step (resting site) last ∧ (∀ job ∈ last.jobs, job.Over) ∧
    last.site.store.subscriptions.find? ⟨1⟩ = some after ∧
    after.successCount = 1 ∧ after.failureCount = 0 ∧
    1 + last.entries.countP (Entry.misses ⟨1⟩ .success) =
      last.results.countP (Tallied.deliveredFor ⟨1⟩) ∧
    last.entries.countP (Entry.misses ⟨1⟩ .failure) = last.entries.countP (Entry.fails ⟨1⟩) := by
  have resting : Arrives started :=
    ⟨[], .refl, fun _ member => absurd member List.not_mem_nil⟩
  have refused : Arrives (attempted started) :=
    resting.shift (.batch .standard .standard) (by decide +kernel)
  have saved : Arrives (resaved (attempted started)) := refused.resaved (by decide +kernel)
  have accepted : Arrives (attempted (resaved (attempted started))) :=
    saved.shift (.batch .standard .standard) (by decide +kernel)
  obtain ⟨jobs, run, settled⟩ : Arrives finished := accepted.shift .sweep (by decide +kernel)
  have totals : (finished.1.store.subscriptions.find? ⟨1⟩).any (fun subscription =>
      subscription.successCount = 1 && subscription.failureCount = 0) = true := by decide +kernel
  obtain ⟨after, found, totals⟩ := (Option.any_eq_true _ _).mp totals
  obtain ⟨successes, failures⟩ : after.successCount = 1 ∧ after.failureCount = 0 := by
    simpa using totals
  obtain ⟨grown, _⟩ := adds_up listed_stocked run settled
  obtain ⟨same, left, more, lost⟩ := grown ⟨1⟩ .ofOrders rfl
  obtain rfl : after = same := Option.some.inj (found.symm.trans left)
  have none_yet : Subscription.ofOrders.successCount = 0 ∧
      Subscription.ofOrders.failureCount = 0 := ⟨rfl, rfl⟩
  refine ⟨stocked, _, after, listed_stocked, run, settled, found, successes, failures, ?_, ?_⟩
  · omega
  · omega

end HookRelay.Crew
