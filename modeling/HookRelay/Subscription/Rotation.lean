import HookRelay.Subscription.Basic

/-!
Secret rotation: the current secret becomes the previous one, which stays acceptable through a grace
period.
-/
namespace HookRelay

inductive MalformedRotation where
  | noRotationTime
  | noExpiry
  | expiresBeforeRotation
deriving DecidableEq, Repr

namespace MalformedRotation

def reason : MalformedRotation → String
  | noRotationTime => "previous secret without rotation timestamp"
  | noExpiry => "previous secret without expiry"
  | expiresBeforeRotation => "previous secret expires before rotation"

end MalformedRotation

inductive RotationError where
  | missingCurrentSecret
  | malformedState (fault : MalformedRotation)
deriving DecidableEq, Repr

namespace RotationError

def kind : RotationError → String
  | missingCurrentSecret => "MissingCurrentSecret"
  | malformedState _ => "MalformedState"

def message : RotationError → String
  | missingCurrentSecret => "subscription has no current secret to rotate"
  | malformedState fault => "malformed rotation state: " ++ fault.reason

end RotationError

namespace Subscription

/-- When the previous secret was replaced and when it expires; none without a previous secret. -/
def graceWindow (subscription : Subscription) : Except RotationError (Option (Instant × Instant)) :=
  match subscription.previousSecret with
  | none => .ok none
  | some _ =>
    match subscription.rotatedAt, subscription.previousExpiresAt with
    | none, _ => .error (.malformedState .noRotationTime)
    | some _, none => .error (.malformedState .noExpiry)
    | some rotated, some expires =>
      if expires < rotated then .error (.malformedState .expiresBeforeRotation)
      else .ok (some (rotated, expires))

/-- The previous secret is good up to and including its expiry. -/
def previousIsValid (subscription : Subscription) (now : Instant) : Except RotationError Bool :=
  subscription.graceWindow.map fun window =>
    match window with
    | some (_, expires) => now ≤ expires
    | none => false

/-- The secrets that may verify a request at `now`, the current one first. -/
def activeSecrets (subscription : Subscription) (now : Instant) :
    Except RotationError (List Secret) :=
  if subscription.secret.isEmpty then .error .missingCurrentSecret
  else
    (subscription.previousIsValid now).map fun valid =>
      subscription.secret :: if valid then subscription.previousSecret.toList else []

/-- What is left when the previous secret is cleared; when it came in stays known. -/
def withoutPrevious (subscription : Subscription) (now : Instant) : Subscription :=
  { subscription with previousSecret := none, previousExpiresAt := none, updatedAt := now }

/-- The subscription without a previous secret that has expired; none if nothing is to be cleared.
-/
def clearExpired (subscription : Subscription) (now : Instant) :
    Except RotationError (Option Subscription) :=
  match subscription.previousSecret with
  | none => .ok none
  | some _ =>
    (subscription.previousIsValid now).map fun valid =>
      if valid then none else some (subscription.withoutPrevious now)

/-- How a rotation can end: an expiry past the end of the calendar stops the program. -/
inductive Rotation where
  | rotated (subscription : Subscription)
  | refused (error : RotationError)
  | pastCalendar

/-- Replaces the current secret by a generated one; the old one stays good for `graceDays` days. -/
def rotate (subscription : Subscription) (generated : Secret) (now : Instant) (graceDays : Nat) :
    Rotation :=
  if subscription.secret.isEmpty then .refused .missingCurrentSecret
  else
    match now.daysLater? graceDays with
    | none => .pastCalendar
    | some expires => .rotated { subscription with
        secret := generated
        previousSecret := some subscription.secret
        rotatedAt := some now
        previousExpiresAt := some expires
        updatedAt := now }

end Subscription

end HookRelay
