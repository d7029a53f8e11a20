import HookRelay.Config.Load

namespace HookRelay

open Json

def Duration.parts (duration : Duration) : Value :=
  .array [.nat duration.seconds, .nat duration.subsecond]

private def floatText (value : Binary64) : Value :=
  .string (String.ofList (Binary64.diagnostic.write value))

/-- The settings of the server, the workers, the retry schedule and the client; the password of the
database does not show. -/
def Configuration.summary (config : Configuration) : List (String × Value) :=
  let worker := config.workerSettings
  let policy := config.retryPolicy
  let client := config.clientSettings
  [("masked", .string config.maskedDatabaseUrl),
    ("database_max_connections", .nat config.databaseMaxConnections),
    ("host", .string config.host), ("port", .nat config.port),
    ("request_timeout", config.requestTimeout.parts), ("workers", .nat worker.workerCount),
    ("batch", .nat worker.batchSize), ("poll", worker.pollInterval.parts),
    ("shutdown", worker.shutdownTimeout.parts), ("lease", worker.leaseDuration.parts),
    ("initial", policy.initialDelay.parts), ("multiplier", floatText policy.multiplier),
    ("max", policy.maxDelay.parts), ("jitter", floatText policy.jitter),
    ("replay", config.replayTolerance.parts), ("sweep", config.sweepInterval.parts),
    ("client_timeout", client.defaultTimeout.parts), ("user_agent", .string client.userAgent),
    ("redirects", .nat client.maxRedirects), ("rust_log", .string config.logFilter)]

end HookRelay
