import HookRelay.Proofs.Ledger.Gains
import HookRelay.Proofs.Ledger.Statistics
import HookRelay.Proofs.Outbound.Authenticity

namespace HookRelay

/-- Workers and sweepers on one site, with the statistics that they share. -/
structure Crew where
  site : Site
  stats : WorkerStats
  jobs : List Job

/-- What a crew is put to. -/
inductive Shift : {α : Type} → Program Relay α → Prop where
  | batch (settings : WorkerSettings) (policy : RetryPolicy) :
      Shift (Worker.batch settings policy).result
  | work (settings : WorkerSettings) (policy : RetryPolicy) (turns : Nat) :
      Shift (Worker.run settings policy turns)
  | sweep : Shift Sweep.once.result
  | sweeps (interval : Duration) (turns : Nat) : Shift (Sweep.run interval turns)

theorem Shift.square {α : Type} {program : Program Relay α} (shift : Shift program) :
    program.Square := by
  cases shift with
  | batch settings policy => exact Worker.batch_square settings policy
  | work settings policy turns => exact Worker.run_square settings policy turns
  | sweep => exact Sweep.once_square
  | sweeps interval turns => exact Sweep.run_square interval turns

namespace Crew

def resting (site : Site) : Crew := ⟨site, .zero, []⟩

/-- What can happen next: something else than subscriptions changes, an owner saves one as it once
was, a shift begins, or a job does what it does next, which may fail. -/
inductive Step : Crew → Crew → Prop where
  | outside {site after : Site} {stats : WorkerStats} {jobs : List Job}
      (same : after.store.subscriptions = site.store.subscriptions) :
      Step ⟨site, stats, jobs⟩ ⟨after, stats, jobs⟩
  | save {site : Site} {stats : WorkerStats} {jobs : List Job} {snapshot : Subscription}
      {store : MemoryStore} (saved : site.store.saveSubscription snapshot = .ok store) :
      Step ⟨site, stats, jobs⟩ ⟨{ site with store := store }, stats, jobs⟩
  | start {site : Site} {stats : WorkerStats} {jobs : List Job} {α : Type}
      {program : Program Relay α} (shift : Shift program) :
      Step ⟨site, stats, jobs⟩ ⟨site, stats, jobs ++ [⟨α, [], program⟩]⟩
  | turn {site after : Site} {stats counted : WorkerStats} {ahead behind : List Job} {α : Type}
      {past : List Answered} {effect : Effect} {next : effect.Reply → Program Relay α}
      {reply : effect.Reply} (turned : Conditions.anything.Turn effect site reply after)
      (noted : stats.note? ⟨effect, reply⟩ = some counted) :
      Step ⟨site, stats, ahead ++ ⟨α, past, .step effect next⟩ :: behind⟩
        ⟨after, counted,
          ahead ++ ⟨α, past ++ [⟨effect, reply⟩], next reply⟩ :: behind⟩

def entries (crew : Crew) : List Entry := crew.jobs.flatMap fun job => HookRelay.entries job.past

def results (crew : Crew) : List Tallied := crew.jobs.flatMap fun job => tallies job.past

end Crew

namespace Job

def Over (job : Job) : Prop := ∃ value, job.rest = .done value

/-- Whatever it is told, the trail of a job will be squared. -/
def Squares (job : Job) : Prop :=
  job.rest.Heeds ledger (fun _ _ => True) (fun _ trail => HookRelay.Squares trail) job.past

theorem Squares.ended {job : Job} (squares : job.Squares) (ended : job.Over) :
    Balanced (HookRelay.entries job.past) (tallies job.past) := by
  obtain ⟨α, past, rest⟩ := job
  obtain ⟨value, rfl⟩ : ∃ value : α, rest = .done value := ended
  obtain ⟨results, tallied, balanced⟩ : HookRelay.Squares past := squares
  rwa [← tallied none] at balanced

end Job

private theorem flatMap_perm {β : Type} {added : List β} (read : Job → List β)
    (ahead behind : List Job) (old new : Job) (more : read new = read old ++ added) :
    ((ahead ++ new :: behind).flatMap read).Perm
      (added ++ (ahead ++ old :: behind).flatMap read) := by
  rw [List.flatMap_append, List.flatMap_append, List.flatMap_cons, List.flatMap_cons, more,
    List.append_assoc]
  exact ((List.perm_append_comm_assoc _ _ _).append_left _).trans
    (List.perm_append_comm_assoc _ _ _)

namespace Crew

/-- What holds of a crew at every moment. -/
structure Sound (site : Site) (crew : Crew) : Prop where
  gains : site.store.Gains crew.entries crew.site.store
  jobs : ∀ job ∈ crew.jobs, job.Squares
  stats : crew.stats.Shows crew.results

variable {site : Site} {crew last : Crew}

theorem Sound.resting (listed : site.store.Listed) : Sound site (resting site) :=
  ⟨MemoryStore.gains_of_same listed rfl fun _ _ => rfl,
    fun _ member => absurd member List.not_mem_nil, ⟨rfl, rfl, rfl, rfl⟩⟩

private theorem tallies_concat (past : List Answered) (answered : Answered) :
    ∃ owner, tallies (past ++ [answered]) =
      tallies past ++ answered.tally?.toList.map fun result => (owner, result) := by
  obtain ⟨owner, split⟩ := talliesFrom_append none past
  refine ⟨owner, (split [answered]).trans ?_⟩
  cases tallied : answered.tally? with
  | none => simp [tallies, talliesFrom, tallied]
  | some result => simp [tallies, talliesFrom, tallied]

private theorem entries_concat (past : List Answered) (answered : Answered) :
    HookRelay.entries (past ++ [answered]) =
      HookRelay.entries past ++ answered.entry?.toList := by
  rw [entries_append]
  cases entered : answered.entry? with
  | none => simp [HookRelay.entries, entered]
  | some entry => simp [HookRelay.entries, entered]

theorem Sound.step (sound : Sound site crew) (step : Step crew last) : Sound site last := by
  obtain ⟨gains, jobs, stats⟩ := sound
  cases step with
  | @outside met after noted working same =>
    have still : met.store.Gains [] after.store :=
      MemoryStore.gains_of_same gains.listed same fun _ _ => rfl
    exact ⟨gains.trans still .rfl, jobs, stats⟩
  | save saved =>
    exact ⟨gains.trans (MemoryStore.gains_of_saveSubscription gains.listed saved) .rfl, jobs,
      stats⟩
  | @start met noted working α program shift =>
    have none_entered : entries ⟨met, noted, working ++ [⟨α, [], program⟩]⟩ =
        entries ⟨met, noted, working⟩ := by simp [entries, HookRelay.entries]
    have none_tallied : results ⟨met, noted, working ++ [⟨α, [], program⟩]⟩ =
        results ⟨met, noted, working⟩ := by simp [results, tallies, talliesFrom]
    refine ⟨none_entered ▸ gains, fun job member => ?_, none_tallied ▸ stats⟩
    rcases List.mem_append.mp member with held | new
    · exact jobs job held
    · cases List.mem_singleton.mp new
      refine (shift.square []).mono (fun _ _ => id) ?_
      rintro value after ⟨trail, rfl, squares⟩
      exact squares
  | @turn met after before counted ahead behind α past effect next reply turned noted =>
    have own : Job.Squares ⟨α, past, .step effect next⟩ := jobs _ (by simp)
    have genuine := Site.genuine_of_turn gains.listed turned
    refine ⟨gains.trans (Site.gains_of_turn gains.listed turned) ?_, fun job member => ?_, ?_⟩
    · exact flatMap_perm (fun job => HookRelay.entries job.past) ahead behind
        ⟨α, past, .step effect next⟩ ⟨α, past ++ [⟨effect, reply⟩], next reply⟩
        (entries_concat past ⟨effect, reply⟩)
    · rcases List.mem_append.mp member with first | rest
      · exact jobs job (List.mem_append_left _ first)
      · rcases List.mem_cons.mp rest with rfl | second
        · exact (own past rfl).2 reply _ ⟨genuine, rfl⟩
        · exact jobs job (List.mem_append_right _ (List.mem_cons_of_mem _ second))
    · obtain ⟨owner, more⟩ := tallies_concat past ⟨effect, reply⟩
      have perm := flatMap_perm (fun job => tallies job.past) ahead behind
        ⟨α, past, .step effect next⟩ ⟨α, past ++ [⟨effect, reply⟩], next reply⟩ more
      refine WorkerStats.Shows.perm ?_ perm
      cases tallied : Answered.tally? ⟨effect, reply⟩ with
      | none =>
        rw [WorkerStats.note?, tallied] at noted
        exact Option.some.inj noted ▸ stats
      | some result =>
        rw [WorkerStats.note?, tallied] at noted
        exact WorkerStats.record?_eq_some noted ▸ stats.record owner result

theorem Sound.run (sound : Sound site crew) (run : Relation.ReflTransGen Step crew last) :
    Sound site last := by
  induction run with
  | refl => exact sound
  | tail earlier step ih => exact ih.step step

/-- Once all jobs are over, what they have entered is balanced. -/
theorem Sound.balanced (sound : Sound site crew) (ended : ∀ job ∈ crew.jobs, job.Over) :
    Balanced crew.entries crew.results := by
  obtain ⟨met, stats, jobs⟩ := crew
  have squares := sound.jobs
  clear sound
  show Balanced (jobs.flatMap fun job => HookRelay.entries job.past)
    (jobs.flatMap fun job => tallies job.past)
  induction jobs with
  | nil => exact .nil
  | cons job rest ih =>
    rw [List.flatMap_cons, List.flatMap_cons]
    refine ((squares job List.mem_cons_self).ended (ended job List.mem_cons_self)).append ?_
    exact ih (fun job member => ended job (List.mem_cons_of_mem _ member))
      fun job member => squares job (List.mem_cons_of_mem _ member)

end Crew

end HookRelay
