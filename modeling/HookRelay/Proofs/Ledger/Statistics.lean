import HookRelay.Proofs.Ledger.Balance

namespace HookRelay

/-- Only tallies are noted in the statistics, and only while there is room for them. -/
def WorkerStats.note? (stats : WorkerStats) (answered : Answered) : Option WorkerStats :=
  answered.tally?.elim (some stats) stats.record?

/-- Statistics show these results. -/
structure WorkerStats.Shows (stats : WorkerStats) (results : List Tallied) : Prop where
  processed : stats.processed = results.length
  succeeded : stats.succeeded = results.countP fun tallied => Worker.isDelivered tallied.2
  failed : stats.failed = results.countP fun tallied => Worker.isRefused tallied.2
  errors : stats.errors = results.countP fun tallied => Worker.isFaulted tallied.2

namespace WorkerStats.Shows

variable {stats : WorkerStats} {results others : List Tallied}

theorem perm (shows : stats.Shows results) (same : others.Perm results) : stats.Shows others where
  processed := shows.processed.trans same.length_eq.symm
  succeeded := shows.succeeded.trans (same.countP_eq _).symm
  failed := shows.failed.trans (same.countP_eq _).symm
  errors := shows.errors.trans (same.countP_eq _).symm

theorem record (shows : stats.Shows results) (owner : Option Uuid)
    (result : Except DeliveryError Outcome) :
    (stats.record result).Shows ((owner, result) :: results) := by
  obtain ⟨processed, succeeded, failed, errors⟩ := shows
  rcases result with error | outcome
  · constructor <;>
      simp [WorkerStats.record, Worker.isDelivered, Worker.isRefused, Worker.isFaulted, *]
  · cases outcome <;> constructor <;>
      simp [WorkerStats.record, Worker.isDelivered, Worker.isRefused, Worker.isFaulted, *]

end WorkerStats.Shows

theorem length_eq_of_kinds (results : List Tallied) :
    results.length = (results.countP fun tallied => Worker.isDelivered tallied.2) +
      (results.countP fun tallied => Worker.isRefused tallied.2) +
      (results.countP fun tallied => Worker.isFaulted tallied.2) +
      results.countP fun tallied => Worker.isSkipped tallied.2 := by
  induction results with
  | nil => rfl
  | cons tallied rest ih =>
    obtain ⟨owner, result⟩ := tallied
    rcases result with error | outcome
    · simp [Worker.isDelivered, Worker.isRefused, Worker.isFaulted, Worker.isSkipped, ih]
      omega
    · cases outcome <;>
        simp [Worker.isDelivered, Worker.isRefused, Worker.isFaulted, Worker.isSkipped, ih] <;>
        omega

end HookRelay
