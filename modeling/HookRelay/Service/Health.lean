import HookRelay.Effect
import HookRelay.Service.Response

namespace HookRelay.Health

open Json

def version : String := "0.1.0"

/-- What the database check says: nothing, or why it failed. -/
abbrev Database := Except String Unit

def database (check : Database) : Value :=
  .ofMembers (match check with
    | .ok () => [("status", .string "up")]
    | .error reason =>
      [("status", .string "down"), ("message", .string ("database connection failed: " ++ reason))])

def report (check : Database) (now : Instant) : ServiceResponse :=
  let (status, health) := match check with
    | .ok () => (200, "healthy")
    | .error _ => (503, "unhealthy")
  .ofJson status (.ofMembers [("status", .string health), ("timestamp", .string now.text),
    ("checks", .ofMembers [("database", database check)]), ("version", .string version)])

def health (check : Database) : Program Relay ServiceResponse :=
  .step .now fun now => .done (report check now)

def readiness (check : Database) : Program Relay ServiceResponse :=
  .done (match check with
    | .ok () => .ofJson 200 (.ofMembers [("status", .string "ready")])
    | .error reason =>
      .ofJson 503 (.ofMembers [("status", .string "not_ready"), ("message", .string reason)]))

def liveness : Program Relay ServiceResponse :=
  .step .now fun now => .done (.ofJson 200 (.ofMembers [("status", .string "alive"),
    ("timestamp", .string (Instant.text now)), ("service", .string "courier")]))

end HookRelay.Health
