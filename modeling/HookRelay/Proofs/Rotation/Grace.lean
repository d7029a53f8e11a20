import HookRelay.Proofs.Rotation.History
import HookRelay.Proofs.Signature

namespace HookRelay

variable {first next last : Subscription} {generated : Secret} {since expires now : Instant}
  {graceDays : Nat} {log : List (Instant × Option Secret)} {tolerance : Duration}
  {timestamp : Option (List Char)} {signature : String} {secret : Secret}

/-- As long as a previous secret is in its grace period, only a rotation changes a subscription. -/
theorem SecretRun.eq_of_inGrace (run : SecretRun first log last)
    (none_generated : generatedSecrets log = []) (past : ∀ entry ∈ log, entry.1 ≤ now)
    (inGrace : first.InGrace now) : last = first := by
  induction run with
  | start => rfl
  | @step log before after time generated earlier step ih =>
    rw [generatedSecrets_concat, List.append_eq_nil_iff] at none_generated
    obtain ⟨sooner, silent⟩ := none_generated
    have same := ih sooner fun entry member => past entry (List.mem_append_left _ member)
    subst same
    have passed : time ≤ now := past (time, generated) (List.mem_append_right _ List.mem_cons_self)
    cases generated with
    | some secret => cases silent
    | none =>
      rcases step.cases_of_none with same | ⟨expired, _⟩
      · exact same
      · obtain ⟨previous, ends, held, dated, within⟩ := inGrace
        have stillIn : before.InGrace time := ⟨previous, ends, held, dated, Int.le_trans passed within⟩
        exact absurd stillIn (Subscription.not_inGrace_of_expired expired)

/-- What a secret that is admitted has signed is accepted as long as its request is fresh. -/
theorem Subscription.Admits.validates (admits : last.Admits now secret)
    (fresh : Inbound.isFresh tolerance now timestamp = true) {payload : Json.Value}
    (signed : Signature.sign payload secret = .ok signature) :
    Inbound.validate tolerance now payload (some signature.toList) timestamp last = .ok true := by
  obtain ⟨secrets, active, member⟩ := admits
  rw [Inbound.validate_of_fresh fresh active]
  exact congrArg Except.ok
    (List.any_eq_true.mpr ⟨secret, member, Signature.verifyBytes_of_signBytes signed⟩)

theorem Subscription.inGrace_of_rotate
    (rotated : first.rotate generated since graceDays = .rotated next)
    (reached : since.daysLater? graceDays = some expires) :
    next.previousSecret = some first.secret ∧ (next.InGrace now ↔ now ≤ expires) := by
  obtain ⟨_, found, again, rfl⟩ := rotate_eq_rotated rotated
  cases reached.symm.trans again
  simp [InGrace]

/-- After a rotation, only the secret before it and those that came with it or later are held. -/
theorem SecretRun.holds_of_rotate (usable : generated.isEmpty = false)
    (generates : ∀ secret ∈ generatedSecrets log, secret.isEmpty = false)
    (rotated : first.rotate generated since graceDays = .rotated next)
    (run : SecretRun next log last) :
    last.Holds (first.secret :: generated :: generatedSecrets log) := by
  have start : next.Holds [first.secret, generated] := .of_rotate usable ⟨[], rfl⟩ rotated
  exact start.run generates run

theorem Subscription.Holds.mem_of_admits {held : List Secret} (holds : last.Holds held)
    (admits : last.Admits now secret) : secret ∈ held := by
  rcases (admits_iff holds.order now secret).mp admits with rfl | ⟨_, previous⟩
  · obtain ⟨older, rfl⟩ := holds.current
    simp
  · obtain ⟨older, rfl⟩ := holds.previous secret previous
    simp

/-- Once it has expired, or been pushed out by the next, a replaced secret is not admitted. -/
theorem SecretRun.not_admits_replaced (run : SecretRun next log last)
    (rotated : first.rotate generated since graceDays = .rotated next)
    (reached : since.daysLater? graceDays = some expires)
    (generates : ∀ secret ∈ generated :: generatedSecrets log,
      secret.isEmpty = false ∧ secret ≠ first.secret)
    (spent : generatedSecrets log ≠ [] ∨ expires < now) : ¬last.Admits now first.secret := by
  have holds := run.holds_of_rotate (generates generated List.mem_cons_self).1
    (fun secret member => (generates secret (List.mem_cons_of_mem _ member)).1) rotated
  rw [Subscription.admits_iff holds.order]
  rintro (same | ⟨inGrace, previous⟩)
  · obtain ⟨older, split⟩ := holds.current
    have newer : last.secret ∈ generated :: generatedSecrets log :=
      mem_of_append_eq_concat (show [first.secret] ++ _ = _ from split) (List.cons_ne_nil _ _)
    exact (generates _ newer).2 same.symm
  · cases silent : generatedSecrets log with
    | nil =>
      obtain ⟨_, kept⟩ := run.inGrace_of_none silent
      have within := (Subscription.inGrace_of_rotate rotated reached).2.mp (kept now inGrace).1
      exact Int.not_le.mpr (spent.resolve_left fun more => more silent) within
    | cons second more =>
      obtain ⟨oldest, split⟩ := holds.previous first.secret previous
      have newer : first.secret ∈ generated :: generatedSecrets log :=
        mem_of_append_eq_pair (show [first.secret] ++ _ = _ from split) (by simp [silent])
      exact (generates _ newer).2 rfl

structure FreshRequest where
  payload : Json.Value
  now : Instant
  tolerance : Duration
  timestamp : Option (List Char)
  fresh : Inbound.isFresh tolerance now timestamp = true

/-- How a subscription judges a request that bears a signature. -/
def FreshRequest.judgedBy (request : FreshRequest) (subscription : Subscription)
    (signature : String) : Except RotationError Bool :=
  Inbound.validate request.tolerance request.now request.payload (some signature.toList)
    request.timestamp subscription

/-- How signatures fare after a rotation whose grace period ends at `expires`: `old` was made with the
secret that was replaced, and `newer` are the secrets that came since. -/
structure FreshRequest.Fares (request : FreshRequest) (replaced last : Subscription)
    (log : List (Instant × Option Secret)) (newer : List Secret) (expires : Instant)
    (old : String) : Prop where
  outlasts : generatedSecrets log = [] → (∀ entry ∈ log, entry.1 ≤ request.now) →
    request.now ≤ expires → request.judgedBy last old = .ok true
  lapses : generatedSecrets log ≠ [] ∨ expires < request.now → ∃ secrets,
    last.activeSecrets request.now = .ok secrets ∧ replaced.secret ∉ secrets ∧
      (∀ secret ∈ secrets, secret ∈ newer) ∧ request.judgedBy last old =
        .ok (secrets.any fun secret => Signature.verify request.payload old.toList secret)
  current : ∃ signature, Signature.sign request.payload last.secret = .ok signature ∧
    request.judgedBy last signature = .ok true

/-- What the secret before a rotation signed is accepted until its grace period is over or another
rotation comes, whatever has been cleared; from then on it is judged by the newer secrets. What the
current secret signs is always accepted. -/
theorem FreshRequest.fares_over_rotation (request : FreshRequest)
    (usable : first.secret.isEmpty = false)
    (reached : since.daysLater? graceDays = some expires) (generated : Secret) :
    ∃ next old, first.rotate generated since graceDays = .rotated next ∧
      Signature.sign request.payload first.secret = .ok old ∧
      ∀ log last, SecretRun next log last →
        (∀ secret ∈ generated :: generatedSecrets log,
          secret.isEmpty = false ∧ secret ≠ first.secret) →
        request.Fares first last log (generated :: generatedSecrets log) expires old := by
  obtain ⟨next, rotated⟩ : ∃ next, first.rotate generated since graceDays = .rotated next := by
    simp [Subscription.rotate, usable, reached]
  obtain ⟨old, signed⟩ : ∃ old, Signature.sign request.payload first.secret = .ok old :=
    ⟨_, Signature.signBytes_of_usable usable _⟩
  refine ⟨next, old, rotated, signed, fun log last run generates => ?_⟩
  have usables : ∀ secret ∈ generatedSecrets log, secret.isEmpty = false :=
    fun secret member => (generates secret (List.mem_cons_of_mem _ member)).1
  have holds := run.holds_of_rotate (generates generated List.mem_cons_self).1 usables rotated
  constructor
  · intro silent past within
    obtain ⟨previous, graced⟩ := Subscription.inGrace_of_rotate rotated reached
    have inGrace : next.InGrace request.now := graced.mpr within
    cases run.eq_of_inGrace silent past inGrace
    have admits : next.Admits request.now first.secret :=
      (Subscription.admits_iff holds.order _ _).mpr (.inr ⟨inGrace, previous⟩)
    exact admits.validates request.fresh signed
  · intro spent
    have lost := run.not_admits_replaced rotated reached generates spent
    obtain ⟨secrets, active, _⟩ := Subscription.activeSecrets_of_order holds.order request.now
    refine ⟨secrets, active, fun member => lost ⟨secrets, active, member⟩, ?_,
      Inbound.validate_of_fresh request.fresh active _ _⟩
    intro secret member
    have held := holds.mem_of_admits ⟨secrets, active, member⟩
    refine (List.mem_cons.mp held).resolve_left ?_
    rintro rfl
    exact lost ⟨secrets, active, member⟩
  · have admits := (Subscription.admits_iff holds.order request.now last.secret).mpr (.inl rfl)
    obtain ⟨signature, signed⟩ : ∃ signature,
        Signature.sign request.payload last.secret = .ok signature :=
      ⟨_, Signature.signBytes_of_usable holds.order.usable _⟩
    exact ⟨signature, signed, admits.validates request.fresh signed⟩

/-- A request at the very end of a day of grace. -/
private def lastMinute : FreshRequest where
  payload := .object [("id", .nat 7)]
  now := .ofSeconds 86400
  tolerance := Freshness.defaultTolerance
  timestamp := some "86400".toList
  fresh := by decide +kernel

theorem FreshRequest.fares_lastMinute : ∃ old,
    Signature.sign lastMinute.payload Subscription.ofOrders.secret = .ok old ∧
      lastMinute.judgedBy .ofOrdersReplaced old = .ok true := by
  have usable : Subscription.ofOrders.secret.isEmpty = false := rfl
  have reached : (⟨0⟩ : Instant).daysLater? 1 = some (.ofSeconds 86400) := rfl
  obtain ⟨next, old, rotated, signed, fares⟩ :=
    lastMinute.fares_over_rotation usable reached ⟨[0x2b]⟩
  cases rotated
  have cleared : SecretStep (.ofSeconds 86400) none .ofOrdersReplaced .ofOrdersReplaced :=
    .clear (show Subscription.ofOrdersReplaced.clearExpired (.ofSeconds 86400) = .ok none from rfl)
  have judged := fares _ .ofOrdersReplaced (SecretRun.start.step cleared) (by decide)
  exact ⟨old, signed, judged.outlasts rfl (by decide) (by decide)⟩

end HookRelay
