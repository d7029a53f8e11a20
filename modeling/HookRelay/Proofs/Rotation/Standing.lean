import HookRelay.Store

namespace HookRelay.Subscription

/-- A previous secret is held together with when it was replaced and an expiry not before that. -/
def GraceInOrder (subscription : Subscription) : Prop :=
  ∀ previous, subscription.previousSecret = some previous →
    ∃ rotated expires, subscription.rotatedAt = some rotated ∧
      subscription.previousExpiresAt = some expires ∧ rotated ≤ expires

structure SecretsInOrder (subscription : Subscription) : Prop where
  usable : subscription.secret.isEmpty = false
  grace : subscription.GraceInOrder

/-- The previous secret is in its grace period, which ends with its expiry. -/
def InGrace (subscription : Subscription) (now : Instant) : Prop :=
  ∃ previous expires, subscription.previousSecret = some previous ∧
    subscription.previousExpiresAt = some expires ∧ now ≤ expires

variable {subscription : Subscription} {now : Instant}

theorem graceWindow_of_none (single : subscription.previousSecret = none) :
    subscription.graceWindow = .ok none := by
  simp [graceWindow, single]

theorem graceWindow_of_dated {previous : Secret} {rotated expires : Instant}
    (held : subscription.previousSecret = some previous)
    (replaced : subscription.rotatedAt = some rotated)
    (ends : subscription.previousExpiresAt = some expires) (ordered : rotated ≤ expires) :
    subscription.graceWindow = .ok (some (rotated, expires)) := by
  have forward : ¬expires < rotated := Int.not_lt.mpr ordered
  simp [graceWindow, held, replaced, ends, forward]

theorem graceWindow_of_disorder (disorder : ¬subscription.GraceInOrder) :
    ∃ fault, subscription.graceWindow = .error (.malformedState fault) := by
  cases held : subscription.previousSecret with
  | none => exact absurd (fun _ found => by simp [held] at found) disorder
  | some previous =>
    cases replaced : subscription.rotatedAt with
    | none => exact ⟨.noRotationTime, by simp [graceWindow, held, replaced]⟩
    | some rotated =>
      cases ends : subscription.previousExpiresAt with
      | none => exact ⟨.noExpiry, by simp [graceWindow, held, replaced, ends]⟩
      | some expires =>
        have backward : expires < rotated := by
          refine Int.not_le.mp fun ordered => disorder fun _ _ => ?_
          exact ⟨rotated, expires, replaced, ends, ordered⟩
        exact ⟨.expiresBeforeRotation, by simp [graceWindow, held, replaced, ends, backward]⟩

/-- Whoever asks about a previous secret in order is told whether it is in its grace period. -/
theorem previousIsValid_of_grace (grace : subscription.GraceInOrder) (now : Instant) :
    ∃ valid, subscription.previousIsValid now = .ok valid ∧
      (valid = true ↔ subscription.InGrace now) := by
  cases held : subscription.previousSecret with
  | none =>
    refine ⟨false, by rw [previousIsValid, graceWindow_of_none held]; rfl, ?_⟩
    simp [InGrace, held]
  | some previous =>
    obtain ⟨rotated, expires, replaced, ends, ordered⟩ := grace previous held
    refine ⟨decide (now ≤ expires), ?_, ?_⟩
    · rw [previousIsValid, graceWindow_of_dated held replaced ends ordered]
      rfl
    · simp [InGrace, held, ends]

theorem activeSecrets_of_inGrace {previous : Secret} (order : subscription.SecretsInOrder)
    (inGrace : subscription.InGrace now) (held : subscription.previousSecret = some previous) :
    subscription.activeSecrets now = .ok [subscription.secret, previous] := by
  obtain ⟨valid, asked, told⟩ := previousIsValid_of_grace order.grace now
  simp [activeSecrets, order.usable, asked, told.mpr inGrace, held, Except.map]

theorem activeSecrets_of_not_inGrace (order : subscription.SecretsInOrder)
    (spent : ¬subscription.InGrace now) :
    subscription.activeSecrets now = .ok [subscription.secret] := by
  obtain ⟨valid, asked, told⟩ := previousIsValid_of_grace order.grace now
  have refused : valid = false := Bool.eq_false_iff.mpr fun good => spent (told.mp good)
  simp [activeSecrets, order.usable, asked, refused, Except.map]

theorem activeSecrets_of_order (order : subscription.SecretsInOrder) (now : Instant) :
    ∃ secrets, subscription.activeSecrets now = .ok secrets ∧ subscription.secret ∈ secrets := by
  by_cases inGrace : subscription.InGrace now
  · have ⟨previous, _, held, _⟩ := inGrace
    exact ⟨_, activeSecrets_of_inGrace order inGrace held, List.mem_cons_self⟩
  · exact ⟨_, activeSecrets_of_not_inGrace order inGrace, List.mem_cons_self⟩

/-- Secrets in disorder verify nothing. -/
theorem activeSecrets_of_disorder (disorder : ¬subscription.SecretsInOrder) (now : Instant) :
    ∃ error, subscription.activeSecrets now = .error error := by
  cases usable : subscription.secret.isEmpty with
  | true => exact ⟨.missingCurrentSecret, by simp [activeSecrets, usable]⟩
  | false =>
    obtain ⟨fault, refused⟩ := graceWindow_of_disorder fun grace => disorder ⟨usable, grace⟩
    exact ⟨.malformedState fault, by
      simp [activeSecrets, usable, previousIsValid, refused, Except.map]⟩

theorem previousHasExpired_iff (stored : Subscription) (now : Instant) :
    stored.previousHasExpired now = true ↔ ∃ previous expires,
      stored.previousSecret = some previous ∧ stored.previousExpiresAt = some expires ∧
        expires < now := by
  cases held : stored.previousSecret with
  | none => simp [previousHasExpired, held]
  | some previous =>
    cases ends : stored.previousExpiresAt with
    | none => simp [previousHasExpired, held, ends]
    | some expires => simp [previousHasExpired, held, ends]

theorem not_inGrace_of_expired (expired : subscription.previousHasExpired now = true) :
    ¬subscription.InGrace now := by
  obtain ⟨_, expires, _, ends, past⟩ := (previousHasExpired_iff subscription now).mp expired
  rintro ⟨_, other, _, found, within⟩
  cases ends.symm.trans found
  exact Int.not_le.mpr past within

/-- A subscription in order is cleared exactly when the store would clear it. -/
theorem clearExpired_of_grace (grace : subscription.GraceInOrder) (now : Instant) :
    subscription.clearExpired now = .ok (if subscription.previousHasExpired now then
      some (subscription.withoutPrevious now) else none) := by
  cases held : subscription.previousSecret with
  | none => simp [clearExpired, previousHasExpired, held]
  | some previous =>
    obtain ⟨rotated, expires, replaced, ends, ordered⟩ := grace previous held
    have asked : subscription.previousIsValid now = .ok (decide (now ≤ expires)) := by
      rw [previousIsValid, graceWindow_of_dated held replaced ends ordered]
      rfl
    by_cases past : expires < now
    · have spent : ¬now ≤ expires := Int.not_le.mpr past
      simp [clearExpired, previousHasExpired, held, ends, asked, past, spent, Except.map]
    · have within : now ≤ expires := Int.not_lt.mp past
      simp [clearExpired, previousHasExpired, held, ends, asked, past, within, Except.map]

theorem clearExpired_eq_some {after : Subscription}
    (cleared : subscription.clearExpired now = .ok (some after)) :
    subscription.previousHasExpired now = true ∧ after = subscription.withoutPrevious now := by
  by_cases grace : subscription.GraceInOrder
  · rw [clearExpired_of_grace grace] at cleared
    split at cleared
    · rename_i expired
      cases cleared
      exact ⟨expired, rfl⟩
    · cases cleared
  · obtain ⟨fault, refused⟩ := graceWindow_of_disorder grace
    cases held : subscription.previousSecret with
    | none => simp [clearExpired, held] at cleared
    | some previous => simp [clearExpired, held, previousIsValid, refused, Except.map] at cleared

end HookRelay.Subscription
