import HookRelay.Address
import HookRelay.Config.Settings

namespace HookRelay

structure Configuration where
  databaseUrl : String
  databaseMaxConnections : Nat
  host : String
  port : Nat
  requestTimeoutSeconds : Nat
  workerPoolSize : Nat
  workerBatchSize : Nat
  workerPollIntervalMs : Nat
  shutdownTimeoutSeconds : Nat
  workerLeaseSeconds : Nat
  retryInitialDelaySeconds : Nat
  retryMultiplier : Binary64
  retryMaxDelaySeconds : Nat
  retryJitterFactor : Binary64
  replayToleranceSeconds : Nat
  rotationSweepIntervalSeconds : Nat
  defaultDeliveryTimeoutSeconds : Nat
  logFilter : String
deriving DecidableEq, Repr

inductive ConfigurationError where
  | zeroPort
  | zeroConnections
  | zeroPoolSize
  | zeroBatchSize
  | multiplierBelowOne
  | initialDelayAboveMaximum
  | jitterOutOfRange
  | zeroSweepInterval
  | zeroDeliveryTimeout
  | leaseNotAboveTimeout
deriving DecidableEq, Repr

namespace ConfigurationError

def message : ConfigurationError → String
  | zeroPort => "port must be greater than 0"
  | zeroConnections => "database_max_connections must be greater than 0"
  | zeroPoolSize => "worker_pool_size must be greater than 0"
  | zeroBatchSize => "worker_batch_size must be greater than 0"
  | multiplierBelowOne => "retry_multiplier must be at least 1.0"
  | initialDelayAboveMaximum => "retry_initial_delay_seconds cannot exceed retry_max_delay_seconds"
  | jitterOutOfRange => "retry_jitter_factor must be between 0.0 and 1.0"
  | zeroSweepInterval => "rotation_sweep_interval_seconds must be greater than 0"
  | zeroDeliveryTimeout => "default_delivery_timeout_seconds must be greater than 0"
  | leaseNotAboveTimeout => "worker_lease_seconds must exceed default_delivery_timeout_seconds"

end ConfigurationError

namespace Configuration

def standard : Configuration where
  databaseUrl := "postgresql://localhost/courier"
  databaseMaxConnections := 10
  host := "127.0.0.1"
  port := 8080
  requestTimeoutSeconds := 30
  workerPoolSize := 3
  workerBatchSize := 10
  workerPollIntervalMs := 1000
  shutdownTimeoutSeconds := 30
  workerLeaseSeconds := 300
  retryInitialDelaySeconds := 60
  retryMultiplier := Binary64.ofNat 2
  retryMaxDelaySeconds := 3600
  retryJitterFactor := Binary64.zero false
  replayToleranceSeconds := 300
  rotationSweepIntervalSeconds := 3600
  defaultDeliveryTimeoutSeconds := 30
  logFilter := "info"

/-- Each thing that may be wrong, in the order in which it is looked for. -/
def checks (config : Configuration) : List (Bool × ConfigurationError) :=
  let one := Binary64.ofNat 1
  [(config.port = 0, .zeroPort),
    (config.databaseMaxConnections = 0, .zeroConnections),
    (config.workerPoolSize = 0, .zeroPoolSize),
    (config.workerBatchSize = 0, .zeroBatchSize),
    (!config.retryMultiplier.isFinite || config.retryMultiplier.lt one, .multiplierBelowOne),
    (config.retryMaxDelaySeconds < config.retryInitialDelaySeconds, .initialDelayAboveMaximum),
    (!((Binary64.zero false).le config.retryJitterFactor && config.retryJitterFactor.le one),
      .jitterOutOfRange),
    (config.rotationSweepIntervalSeconds = 0, .zeroSweepInterval),
    (config.defaultDeliveryTimeoutSeconds = 0, .zeroDeliveryTimeout),
    (config.workerLeaseSeconds ≤ config.defaultDeliveryTimeoutSeconds, .leaseNotAboveTimeout)]

def fault? (config : Configuration) : Option ConfigurationError :=
  (config.checks.find? fun check => check.1).map fun check => check.2

def workerSettings (config : Configuration) : WorkerSettings where
  workerCount := config.workerPoolSize
  batchSize := config.workerBatchSize
  pollInterval := .ofMillis config.workerPollIntervalMs
  shutdownTimeout := .ofSeconds config.shutdownTimeoutSeconds
  leaseDuration := .ofSeconds config.workerLeaseSeconds

def retryPolicy (config : Configuration) : RetryPolicy where
  initialDelay := .ofSeconds config.retryInitialDelaySeconds
  multiplier := config.retryMultiplier
  maxDelay := .ofSeconds config.retryMaxDelaySeconds
  jitter := config.retryJitterFactor

def clientSettings (config : Configuration) : ClientSettings :=
  { ClientSettings.standard with defaultTimeout := .ofSeconds config.defaultDeliveryTimeoutSeconds }

def replayTolerance (config : Configuration) : Duration := .ofSeconds config.replayToleranceSeconds

def sweepInterval (config : Configuration) : Duration :=
  .ofSeconds config.rotationSweepIntervalSeconds

def requestTimeout (config : Configuration) : Duration := .ofSeconds config.requestTimeoutSeconds

def serverAddress? (config : Configuration) : Option SocketAddress :=
  SocketAddress.read? (config.host.toList ++ ':' :: Nat.toDigits 10 config.port)

/-- A URL with `***` between its first `@` and the last colon before it. -/
def maskUrl (url : List Char) : List Char :=
  let before := url.takeWhile (· ≠ '@')
  let after := url.dropWhile (· ≠ '@')
  let kept := (before.reverse.dropWhile (· ≠ ':')).reverse
  if after.isEmpty || kept.isEmpty then url else kept ++ ['*', '*', '*'] ++ after

def maskedDatabaseUrl (config : Configuration) : String :=
  String.ofList (maskUrl config.databaseUrl.toList)

end Configuration

end HookRelay
