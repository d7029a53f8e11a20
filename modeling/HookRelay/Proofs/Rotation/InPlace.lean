import HookRelay.Proofs.Rotation.History

/-!
Rotation of a subscription that is kept in one place, one field after the other. Whatever keeps it
from being carried out does so before the first field is written. An empty secret does so with an
error; an expiry past the end of the calendar does so without one.
-/
namespace HookRelay.Subscription.Rotation

/-- What keeps a rotation from being carried out: an error, or the stop of the whole program. -/
inductive Stop where
  | refused (error : RotationError)
  | pastCalendar
deriving DecidableEq, Repr

/-- Work on the one subscription there is, which keeps what has been written when the work stops. -/
abbrev InPlace := ExceptT Stop (StateM Subscription)

namespace InPlace

def expiry (now : Instant) (graceDays : Nat) : InPlace Instant :=
  match now.daysLater? graceDays with
  | none => throw .pastCalendar
  | some expires => pure expires

/-- Puts a secret in the place of the current one, which it returns. -/
def replaceSecret (secret : Secret) : InPlace Secret := do
  let old := (← get).secret
  modify fun subscription => { subscription with secret }
  return old

/-- Replaces the current secret by a generated one, which it returns as it was generated. -/
def rotate (generated : String) (now : Instant) (graceDays : Nat) : InPlace String := do
  if (← get).secret.isEmpty then throw (.refused .missingCurrentSecret)
  let expires ← expiry now graceDays
  let old ← replaceSecret (.ofString generated)
  modify fun subscription => { subscription with previousSecret := some old }
  modify fun subscription => { subscription with rotatedAt := some now }
  modify fun subscription => { subscription with previousExpiresAt := some expires }
  modify fun subscription => { subscription with updatedAt := now }
  return generated

end InPlace

/-- What comes of a rotation that is made in place, and the subscription that it leaves there. -/
def inPlace (before : Subscription) (generated : String) :
    Rotation → Except Stop String × Subscription
  | .rotated after => (.ok generated, after)
  | .refused error => (.error (.refused error), before)
  | .pastCalendar => (.error .pastCalendar, before)

variable {before after : Subscription} {generated : String} {now : Instant} {graceDays : Nat}

section
variable {rotation : Rotation}

theorem inPlace_eq_refused_iff {error : RotationError} :
    (inPlace before generated rotation).1 = .error (.refused error) ↔
      rotation = .refused error := by
  cases rotation with
  | refused other =>
    constructor
    · intro same
      cases same
      rfl
    · intro same
      cases same
      rfl
  | rotated after => exact ⟨nofun, nofun⟩
  | pastCalendar => exact ⟨nofun, nofun⟩

theorem inPlace_eq_pastCalendar_iff :
    (inPlace before generated rotation).1 = .error .pastCalendar ↔ rotation = .pastCalendar := by
  cases rotation with
  | pastCalendar => exact ⟨fun _ => rfl, fun _ => rfl⟩
  | rotated after => exact ⟨nofun, nofun⟩
  | refused error => exact ⟨nofun, nofun⟩

theorem inPlace_of_stop {stop : Stop}
    (stopped : (inPlace before generated rotation).1 = .error stop) :
    (inPlace before generated rotation).2 = before := by
  cases rotation with
  | rotated after => cases stopped
  | refused error => rfl
  | pastCalendar => rfl

theorem inPlace_of_ok {secret : String}
    (ended : (inPlace before generated rotation).1 = .ok secret) :
    secret = generated ∧ rotation = .rotated (inPlace before generated rotation).2 := by
  cases rotation with
  | rotated after =>
    cases ended
    exact ⟨rfl, rfl⟩
  | refused error => cases ended
  | pastCalendar => cases ended

end

namespace InPlace

variable {Result Next : Type} {state left : Subscription} {work : InPlace Result}
  {next : Result → InPlace Next}

theorem run_bind_of_ok {result : Result} (ran : work.run.run state = (.ok result, left)) :
    (work >>= next).run.run state = (next result).run.run left := by
  rw [ExceptT.run_bind, StateT.run_bind, ran]
  rfl

theorem run_bind_of_error {stop : Stop} (ran : work.run.run state = (.error stop, left)) :
    (work >>= next).run.run state = (.error stop, left) := by
  rw [ExceptT.run_bind, StateT.run_bind, ran]
  rfl

theorem run_get_bind {next : Subscription → InPlace Next} :
    (get >>= next).run.run state = (next state).run.run state := rfl

theorem run_expiry_of_none (beyond : now.daysLater? graceDays = none) :
    (expiry now graceDays).run.run state = (.error .pastCalendar, state) := by
  rw [expiry, beyond]
  rfl

theorem run_expiry_of_some {expires : Instant} (reached : now.daysLater? graceDays = some expires) :
    (expiry now graceDays).run.run state = (.ok expires, state) := by
  rw [expiry, reached]
  rfl

/-- Field by field or all at once, a rotation comes to the same. -/
theorem run_rotate (before : Subscription) (generated : String) (now : Instant) (graceDays : Nat) :
    (rotate generated now graceDays).run.run before =
      inPlace before generated (before.rotate (.ofString generated) now graceDays) := by
  rw [rotate, run_get_bind, Subscription.rotate]
  by_cases empty : before.secret.isEmpty = true
  · rw [if_pos empty, if_pos empty]
    rfl
  · rw [if_neg empty, if_neg empty]
    cases reached : now.daysLater? graceDays with
    | none => exact run_bind_of_error (run_expiry_of_none reached)
    | some expires =>
      -- From here on nothing can stop it, and each field is written in turn.
      exact run_bind_of_ok (run_expiry_of_some reached)

end InPlace

section
variable {secret : Secret}

theorem rotate_eq_refused_iff {error : RotationError} :
    before.rotate secret now graceDays = .refused error ↔
      before.secret.isEmpty = true ∧ error = .missingCurrentSecret := by
  rw [Subscription.rotate]
  by_cases empty : before.secret.isEmpty = true
  · rw [if_pos empty]
    constructor
    · intro same
      cases same
      exact ⟨empty, rfl⟩
    · rintro ⟨_, rfl⟩
      rfl
  · rw [if_neg empty]
    refine ⟨fun same => ?_, fun ⟨keyless, _⟩ => absurd keyless empty⟩
    cases reached : now.daysLater? graceDays <;> simp [reached] at same

theorem rotate_eq_pastCalendar_iff : before.rotate secret now graceDays = .pastCalendar ↔
    before.secret.isEmpty = false ∧
      Instant.latest.nanos < now.nanos + graceDays * 86400000000000 := by
  rw [Subscription.rotate, ← Instant.daysLater?_eq_none_iff]
  by_cases empty : before.secret.isEmpty = true
  · rw [if_pos empty]
    exact ⟨nofun, fun ⟨keyed, _⟩ => absurd (keyed.symm.trans empty) Bool.false_ne_true⟩
  · rw [if_neg empty]
    cases now.daysLater? graceDays with
    | none => exact ⟨fun _ => ⟨Bool.eq_false_iff.mpr empty, rfl⟩, fun _ => rfl⟩
    | some expires => exact ⟨nofun, nofun⟩

end

/-- A rotation that has been carried out: what its fields are, and that no others have changed. -/
structure Carried (before : Subscription) (now : Instant) (graceDays : Nat) (secret : String)
    (after : Subscription) : Prop where
  secret_eq : after.secret = .ofString secret
  previous_eq : after.previousSecret = some before.secret
  rotatedAt_eq : after.rotatedAt = some now
  expires : ∃ expires, after.previousExpiresAt = some expires ∧
    expires.nanos = now.nanos + graceDays * 86400000000000
  others : { after with
    secret := before.secret
    previousSecret := before.previousSecret
    rotatedAt := before.rotatedAt
    previousExpiresAt := before.previousExpiresAt
    updatedAt := before.updatedAt } = before

theorem Carried.of_rotate
    (rotated : before.rotate (.ofString generated) now graceDays = .rotated after) :
    Carried before now graceDays generated after := by
  obtain ⟨_, expires, reached, rfl⟩ := Subscription.rotate_eq_rotated rotated
  exact ⟨rfl, rfl, rfl, ⟨expires, rfl, (Instant.daysLater?_eq_some reached).2⟩, rfl⟩

/-- A rotation in place that is carried out as a whole or not at all. It ends with an error only
without a secret to replace, and stops the program exactly where its grace period would end past the
calendar. -/
structure AllOrNothing (before : Subscription) (generated : String) (now : Instant)
    (graceDays : Nat) (result : Except Stop String) (after : Subscription) : Prop where
  refused_iff : ∀ error, result = .error (.refused error) ↔
    before.secret.isEmpty = true ∧ error = .missingCurrentSecret
  pastCalendar_iff : result = .error .pastCalendar ↔ before.secret.isEmpty = false ∧
    Instant.latest.nanos < now.nanos + graceDays * 86400000000000
  unchanged : ∀ stop, result = .error stop → after = before
  carried : ∀ secret, result = .ok secret →
    secret = generated ∧ Carried before now graceDays secret after

theorem allOrNothing_rotate (before : Subscription) (generated : String) (now : Instant)
    (graceDays : Nat) : AllOrNothing before generated now graceDays
      ((InPlace.rotate generated now graceDays).run.run before).1
      ((InPlace.rotate generated now graceDays).run.run before).2 := by
  rw [InPlace.run_rotate]
  constructor
  · intro error
    rw [inPlace_eq_refused_iff, rotate_eq_refused_iff]
  · rw [inPlace_eq_pastCalendar_iff, rotate_eq_pastCalendar_iff]
  · intro stop stopped
    exact inPlace_of_stop stopped
  · intro secret ended
    obtain ⟨rfl, rotated⟩ := inPlace_of_ok ended
    exact ⟨rfl, .of_rotate rotated⟩

/-- The greatest number of days that thirty-two bits hold leads past the calendar from any time in
it. -/
theorem rotate_greatest (keyed : before.secret.isEmpty = false) (dated : Instant.earliest ≤ now)
    (secret : Secret) : before.rotate secret now 0xFFFFFFFF = .pastCalendar := by
  rw [rotate_eq_pastCalendar_iff]
  have start : Instant.earliest.nanos ≤ now.nanos := dated
  refine ⟨keyed, ?_⟩
  simp only [Instant.earliest] at start
  simp only [Instant.latest]
  omega

end HookRelay.Subscription.Rotation
