import Mathlib.Tactic.MkIffOfInductiveProp
import HookRelay.Config.Basic
import HookRelay.Proofs.Delay
import HookRelay.Proofs.Json.Scalar
import HookRelay.Queue
import HookRelay.Worker

namespace HookRelay

/-- From the start of 1970 to the end of the year 9999. -/
def Dated (now : Instant) : Prop :=
  0 ≤ now.nanos ∧ now.nanos < 253402300800 * 1000000000

/-- The seconds from the end of the year 9999 to the end of the calendar. -/
def reach : Nat := 7956864576000

theorem dueAt_of_reach {now : Instant} (dated : Dated now) {delay : Duration}
    (within : delay.nanos ≤ reach * Duration.nanosPerSecond) :
    ∃ due, dueAt now delay = .ok due := by
  obtain ⟨-, before⟩ := dated
  simp only [reach, Duration.nanosPerSecond] at within
  have counted : delay.nanos ≤ 0x7FFFFFFFFFFFFFFF * 1000000 := by omega
  have reached : (⟨now.nanos + delay.nanos⟩ : Instant) ≤ Instant.latest := by
    show now.nanos + delay.nanos ≤ 8210266876800 * 1000000000 - 1
    omega
  refine ⟨⟨now.nanos + delay.nanos⟩, ?_⟩
  simp [dueAt, Instant.later?, counted, reached]

theorem dueAt_le_latest {now due : Instant} {delay : Duration}
    (found : dueAt now delay = .ok due) : due.nanos ≤ Instant.latest.nanos := by
  unfold dueAt at found
  split at found
  · rename_i later reached
    cases found
    simp only [Instant.later?] at reached
    split at reached
    · rename_i within
      cases reached
      exact of_decide_eq_true (Bool.and_eq_true_iff.mp within).2
    · cases reached
  · cases found

theorem forall_dueAt_iff (seconds : Nat) :
    (∀ now, Dated now → ∃ due, dueAt now (.ofSeconds seconds) = .ok due) ↔ seconds ≤ reach := by
  constructor
  · intro always
    obtain ⟨due, found⟩ := always ⟨253402300800 * 1000000000 - 1⟩ ⟨by decide, by decide⟩
    have reached := dueAt_le_latest found
    have counted := dueAt_eq_ok found
    simp only [Instant.latest, Duration.ofSeconds, Duration.nanosPerSecond] at reached counted
    simp only [reach]
    omega
  · intro within now dated
    exact dueAt_of_reach dated (Nat.mul_le_mul_right _ within)

namespace Configuration

/-- Everything that the parts of the service ask of a configuration. -/
structure CanRun (config : Configuration) : Prop where
  address : config.serverAddress?.isSome = true
  pool : Worker.settingsFault? config.workerSettings = none
  leases : ∀ now, Dated now → ∃ due, dueAt now config.workerSettings.leaseDuration = .ok due
  retries : ∀ now, Dated now → ∀ delay : Duration,
    delay.nanos ≤ config.retryPolicy.maxDelay.nanos → ∃ due, dueAt now delay = .ok due
  delays : ∀ attempt draw, RetryPolicy.one.neg.le draw = true → draw.le RetryPolicy.one = true →
    (config.retryPolicy.nextDelay? attempt draw).isSome = true

/-- What the checks of a configuration leave. -/
@[mk_iff]
structure Valid (config : Configuration) : Prop where
  port : config.port ≠ 0
  connections : config.databaseMaxConnections ≠ 0
  workers : config.workerPoolSize ≠ 0
  batch : config.workerBatchSize ≠ 0
  multiplier : config.retryMultiplier.isFinite = true ∧
    config.retryMultiplier.lt (.ofNat 1) = false
  initialDelay : config.retryInitialDelaySeconds ≤ config.retryMaxDelaySeconds
  jitter : (Binary64.zero false).le config.retryJitterFactor = true ∧
    config.retryJitterFactor.le (.ofNat 1) = true
  sweep : config.rotationSweepIntervalSeconds ≠ 0
  timeout : config.defaultDeliveryTimeoutSeconds ≠ 0
  lease : config.defaultDeliveryTimeoutSeconds < config.workerLeaseSeconds

variable {config : Configuration}

theorem fault?_eq_none_iff : config.fault? = none ↔ config.Valid := by
  simp only [valid_iff, fault?, checks, Option.map_eq_none_iff, List.find?_eq_none,
    List.forall_mem_cons, List.not_mem_nil, IsEmpty.forall_iff, implies_true, Bool.not_eq_true,
    Bool.or_eq_false_iff, decide_eq_false_iff_not, Bool.not_eq_false', Bool.and_eq_true,
    Nat.not_lt, Nat.not_le, ne_eq, and_true]

/-! ### The address -/

theorem decimalValue_digits (number : Nat) :
    Text.decimalValue (Nat.toDigits 10 number) = number := by
  have same (digits : List Char) : Text.decimalValue digits = Nat.ofDigitChars 10 digits 0 := by
    simp only [Text.decimalValue, Nat.ofDigitChars, Text.digitValue, Nat.mul_comm]
    rfl
  rw [same, Nat.ofDigitChars_toDigits (by decide) (by decide)]

theorem isSome_serverAddress?_iff (small : config.port < Nat.pow 2 16) :
    config.serverAddress?.isSome = true ↔ SocketAddress.IsHost config.host.toList :=
  SocketAddress.isSome_read?_iff _ _ Nat.toDigits_ne_nil (fun _ => Json.isDigit_of_mem_digits)
    (by rwa [decimalValue_digits])

/-! ### The workers -/

theorem Valid.settingsFault? (valid : config.Valid) :
    Worker.settingsFault? config.workerSettings = none := by
  have held : config.workerSettings.leaseDuration.nanos ≠ 0 :=
    Nat.mul_ne_zero (Nat.ne_zero_of_lt valid.lease) (by decide)
  have able : ¬ (decide (config.workerSettings.workerCount = 0) ||
      decide (config.workerSettings.batchSize = 0)) = true := by
    simpa using ⟨valid.workers, valid.batch⟩
  rw [Worker.settingsFault?, if_neg able, if_neg held]

/-! ### The retry schedule -/

theorem Valid.jitter_ne_nan (valid : config.Valid) : config.retryPolicy.jitter ≠ .nan := by
  intro unknown
  have shared := valid.jitter.1
  rw [show config.retryJitterFactor = .nan from unknown] at shared
  exact nomatch shared

theorem Valid.delays_of_reach (valid : config.Valid)
    (within : config.retryMaxDelaySeconds ≤ reach) (attempt : Nat) {draw : Binary64}
    (least : RetryPolicy.one.neg.le draw = true) (greatest : draw.le RetryPolicy.one = true) :
    (config.retryPolicy.nextDelay? attempt draw).isSome = true :=
  RetryPolicy.nextDelay?_isSome
    (Nat.mul_le_mul_right _ (within.trans (by decide))) valid.jitter_ne_nan least greatest attempt

/-- A valid configuration can run if its host is an address and the calendar reaches the end of a
lease and of every delay. -/
theorem canRun_iff (accepted : config.fault? = none) (small : config.port < Nat.pow 2 16) :
    config.CanRun ↔ SocketAddress.IsHost config.host.toList ∧
      config.workerLeaseSeconds ≤ reach ∧ config.retryMaxDelaySeconds ≤ reach := by
  have valid := fault?_eq_none_iff.mp accepted
  constructor
  · intro able
    exact ⟨(isSome_serverAddress?_iff small).mp able.address,
      (forall_dueAt_iff _).mp able.leases,
      (forall_dueAt_iff _).mp fun now dated => able.retries now dated _ le_rfl⟩
  · rintro ⟨named, lease, longest⟩
    exact {
      address := (isSome_serverAddress?_iff small).mpr named
      pool := valid.settingsFault?
      leases := (forall_dueAt_iff _).mpr lease
      retries := fun now dated delay below =>
        dueAt_of_reach dated (below.trans (Nat.mul_le_mul_right _ longest))
      delays := fun attempt _ least greatest =>
        valid.delays_of_reach longest attempt least greatest }

/-- The defaults can run. A name is no address, yet no check refuses it. -/
theorem localhost_cannotRun :
    standard.CanRun ∧ ({ standard with host := "localhost" } : Configuration).fault? = none ∧
      ¬ ({ standard with host := "localhost" } : Configuration).CanRun := by
  have accepted : ({ standard with host := "localhost" } : Configuration).fault? = none := by
    decide +kernel
  refine ⟨?_, accepted, fun able => ?_⟩
  · have named := (isSome_serverAddress?_iff (show standard.port < Nat.pow 2 16 by decide)).mp
      (by decide)
    exact (canRun_iff (by decide +kernel) (by decide)).mpr ⟨named, by decide, by decide⟩
  · have named := ((canRun_iff accepted (by decide)).mp able).1
    exact absurd ((isSome_serverAddress?_iff (by decide)).mpr named) (by decide)

end Configuration

end HookRelay
