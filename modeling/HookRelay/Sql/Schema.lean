import HookRelay.Sql.Statement

namespace HookRelay.Sql

structure Definition where
  name : String
  text : String
deriving DecidableEq, Repr

namespace Schema

private def subscriptionsTable : String :=
  "CREATE TABLE IF NOT EXISTS subscriptions ( id UUID PRIMARY KEY, name TEXT NOT NULL, " ++
    "url TEXT NOT NULL, secret BYTEA NOT NULL, previous_secret BYTEA, " ++
    "secret_rotated_at TIMESTAMPTZ, previous_secret_expires_at TIMESTAMPTZ, " ++
    "event_types TEXT[] NOT NULL, status TEXT NOT NULL, " ++
    "timeout_seconds INTEGER NOT NULL DEFAULT 30, max_retries INTEGER NOT NULL DEFAULT 3, " ++
    "success_count BIGINT NOT NULL DEFAULT 0, failure_count BIGINT NOT NULL DEFAULT 0, " ++
    "last_triggered_at TIMESTAMPTZ, created_at TIMESTAMPTZ NOT NULL DEFAULT NOW(), " ++
    "updated_at TIMESTAMPTZ NOT NULL DEFAULT NOW() )"

private def deliveriesTable : String :=
  "CREATE TABLE IF NOT EXISTS deliveries ( id UUID PRIMARY KEY, " ++
    "subscription_id UUID NOT NULL REFERENCES subscriptions(id), event_type TEXT NOT NULL, " ++
    "payload JSONB NOT NULL, status TEXT NOT NULL, attempts INTEGER NOT NULL DEFAULT 0, " ++
    "response_code INTEGER, response_body TEXT, " ++
    "created_at TIMESTAMPTZ NOT NULL DEFAULT NOW(), completed_at TIMESTAMPTZ )"

private def tasksTable : String :=
  "CREATE TABLE IF NOT EXISTS delivery_tasks ( delivery_id UUID PRIMARY KEY " ++
    "REFERENCES deliveries(id), due_at TIMESTAMPTZ NOT NULL, lease_id UUID )"

/-- In the order in which they refer to each other. -/
def definitions : List Definition :=
  [⟨"subscriptions table", subscriptionsTable⟩, ⟨"deliveries table", deliveriesTable⟩,
    ⟨"delivery_tasks table", tasksTable⟩,
    ⟨"subscriptions rotation index",
      "CREATE INDEX IF NOT EXISTS idx_subscriptions_previous_secret ON " ++
        "subscriptions(previous_secret_expires_at) WHERE previous_secret IS NOT NULL"⟩,
    ⟨"deliveries subscription index",
      "CREATE INDEX IF NOT EXISTS idx_deliveries_subscription ON " ++
        "deliveries(subscription_id, created_at DESC)"⟩,
    ⟨"delivery_tasks due index",
      "CREATE INDEX IF NOT EXISTS idx_delivery_tasks_due ON delivery_tasks(due_at)"⟩]

/-- Makes what is missing; an error says what could not be made. -/
def ensureEach : List Definition → Program Session (Except String Unit)
  | [] => .done (.ok ())
  | definition :: rest => .step (.define definition.text) fun
    | .ok _ => ensureEach rest
    | .error _ => .done (.error ("failed to create " ++ definition.name))

def ensure : Program Session (Except String Unit) := ensureEach definitions

end Schema

end HookRelay.Sql
