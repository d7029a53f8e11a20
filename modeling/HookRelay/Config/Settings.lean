import HookRelay.Json.Record
import HookRelay.Retry

namespace HookRelay

structure ClientSettings where
  defaultTimeout : Duration
  userAgent : String
  maxRedirects : Nat
deriving DecidableEq, Repr

namespace ClientSettings

def standard : ClientSettings where
  defaultTimeout := Duration.ofSeconds 30
  userAgent := "Courier-Webhook/1.0"
  maxRedirects := 3

open Json

def toJson (settings : ClientSettings) : Value :=
  .object [("default_timeout", ofDuration settings.defaultTimeout),
    ("user_agent", .string settings.userAgent), ("max_redirects", .nat settings.maxRedirects)]

/-- Reads JSON text, passing over members of other names. -/
def read? (text : Bytes) : Option ClientSettings := do
  match ← Record.fields? ["default_timeout", "user_agent", "max_redirects"] text with
  | [timeout, agent, redirects] =>
    pure ⟨← (← timeout).duration?, ← (← agent).string?, ← (← redirects).unsigned? 64⟩
  | _ => none

end ClientSettings

structure WorkerSettings where
  workerCount : Nat
  batchSize : Nat
  pollInterval : Duration
  shutdownTimeout : Duration
  leaseDuration : Duration
deriving DecidableEq, Repr

namespace WorkerSettings

def standard : WorkerSettings where
  workerCount := 3
  batchSize := 10
  pollInterval := Duration.ofSeconds 1
  shutdownTimeout := Duration.ofSeconds 30
  leaseDuration := Duration.ofSeconds 300

open Json

def toJson (settings : WorkerSettings) : Value :=
  .object [("worker_count", .nat settings.workerCount), ("batch_size", .nat settings.batchSize),
    ("poll_interval", ofDuration settings.pollInterval),
    ("shutdown_timeout", ofDuration settings.shutdownTimeout),
    ("lease_duration", ofDuration settings.leaseDuration)]

def read? (text : Bytes) : Option WorkerSettings := do
  match ← Record.fields? ["worker_count", "batch_size", "poll_interval", "shutdown_timeout",
      "lease_duration"] text with
  | [workers, batch, poll, shutdown, lease] =>
    pure ⟨← (← workers).unsigned? 64, ← (← batch).unsigned? 64, ← (← poll).duration?,
      ← (← shutdown).duration?, ← (← lease).duration?⟩
  | _ => none

end WorkerSettings

namespace RetryPolicy

open Json

def toJson (policy : RetryPolicy) : Value :=
  .object [("initial_delay", ofDuration policy.initialDelay),
    ("multiplier", .number (.float policy.multiplier)), ("max_delay", ofDuration policy.maxDelay),
    ("jitter_factor", .number (.float policy.jitter))]

def read? (text : Bytes) : Option RetryPolicy := do
  match ← Record.fields? ["initial_delay", "multiplier", "max_delay", "jitter_factor"] text with
  | [initial, multiplier, ceiling, jitter] =>
    pure ⟨← (← initial).duration?, ← (← multiplier).float?, ← (← ceiling).duration?,
      ← (← jitter).float?⟩
  | _ => none

end RetryPolicy

end HookRelay
