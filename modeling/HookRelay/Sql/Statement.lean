import HookRelay.Program
import HookRelay.Sql.Error

/-!
Statements for the database, each with the values that are bound in it. Those of an insertion and of
an update are told apart only by their places, which are those of the columns that it names.
-/
namespace HookRelay.Sql

inductive Value where
  | null
  | uuid (id : Uuid)
  | text (value : String)
  | integer (value : Int)
  | timestamp (instant : Instant)
  | bytes (bytes : Bytes)
  | json (value : Json.Value)
  | texts (values : List String)

abbrev Row := List (String × Value)

inductive Relation where
  | subscriptions
  | deliveries
deriving DecidableEq, Repr

namespace Relation

def name : Relation → String
  | subscriptions => "subscriptions"
  | deliveries => "deliveries"

/-- The values of an insertion are set apart from their brackets in one of the tables. -/
def bracketed (relation : Relation) (values : String) : String :=
  match relation with
  | subscriptions => "( " ++ values ++ " )"
  | deliveries => "(" ++ values ++ ")"

end Relation

inductive Condition where
  | withId (id : Uuid)
  | listensTo (eventType : String)
  | hasPreviousSecret

inductive Statement where
  | insert (relation : Relation) (columns : List String) (values : List Value)
  | select (relation : Relation) (columns : List String) (condition : Condition)
  | update (relation : Relation) (id : Uuid) (columns : List String) (values : List Value)
  | increment (counter : Counter) (id : Uuid) (now : Instant)
  | clearExpiredPrevious (id : Uuid) (now : Instant)
  | schedule (deliveryId : Uuid) (due : Instant)
  | claim (now leasedUntil : Instant) (leaseId : Uuid) (most : Nat)
  | release (deliveryId leaseId : Uuid)
  | countTasks
  | ping
  | define (text : String)

structure Answer where
  rows : List Row
  affected : Nat

/-- The one operation on the database: to send a statement. -/
def Session : Interface := ⟨Statement, fun _ => Except Error Answer⟩

def commaSeparated (parts : List String) : String := ", ".intercalate parts

private def parameter (number : Nat) : String := "$" ++ toString number

namespace Condition

def text : Condition → String
  | withId _ => "WHERE id = $1"
  | listensTo _ => "WHERE status = 'active' AND $1 = ANY(event_types) ORDER BY created_at"
  | hasPreviousSecret => "WHERE previous_secret IS NOT NULL"

def parameters : Condition → List Value
  | withId id => [.uuid id]
  | listensTo eventType => [.text eventType]
  | hasPreviousSecret => []

end Condition

namespace Statement

def greatestLimit : Nat := 0x7FFFFFFFFFFFFFFF

def text : Statement → String
  | insert relation columns _ =>
    s!"INSERT INTO {relation.name} ( " ++ commaSeparated columns ++ " ) VALUES " ++
      relation.bracketed (commaSeparated ((List.range columns.length).map fun index =>
        parameter (index + 1))) ++ " RETURNING id"
  | select relation columns condition =>
    "SELECT " ++ commaSeparated columns ++ s!" FROM {relation.name} " ++ condition.text
  | update relation _ columns _ =>
    s!"UPDATE {relation.name} SET " ++
      commaSeparated (columns.zipIdx.map fun (column, index) =>
        column ++ " = " ++ parameter (index + 2)) ++ " WHERE id = $1"
  | increment counter .. =>
    "UPDATE subscriptions SET " ++ counter.column ++ " = " ++ counter.column ++
      " + 1, last_triggered_at = $2 WHERE id = $1"
  | clearExpiredPrevious .. =>
    "UPDATE subscriptions SET previous_secret = NULL, previous_secret_expires_at = NULL, " ++
      "updated_at = $2 WHERE id = $1 AND previous_secret IS NOT NULL AND " ++
      "previous_secret_expires_at < $2"
  | schedule .. =>
    "INSERT INTO delivery_tasks (delivery_id, due_at, lease_id) VALUES ($1, $2, NULL) " ++
      "ON CONFLICT (delivery_id) DO UPDATE SET due_at = EXCLUDED.due_at, lease_id = NULL"
  | claim .. =>
    "UPDATE delivery_tasks SET due_at = $2, lease_id = $3 WHERE delivery_id IN ( " ++
      "SELECT delivery_id FROM delivery_tasks WHERE due_at <= $1 ORDER BY due_at LIMIT $4 " ++
      "FOR UPDATE SKIP LOCKED ) RETURNING delivery_id"
  | release .. => "DELETE FROM delivery_tasks WHERE delivery_id = $1 AND lease_id = $2"
  | countTasks => "SELECT COUNT(*) FROM delivery_tasks"
  | ping => "SELECT 1"
  | define text => text

def parameters : Statement → List Value
  | insert _ _ values => values
  | select _ _ condition => condition.parameters
  | update _ id _ values => .uuid id :: values
  | increment _ id now => [.uuid id, .timestamp now]
  | clearExpiredPrevious id now => [.uuid id, .timestamp now]
  | schedule deliveryId due => [.uuid deliveryId, .timestamp due]
  | claim now leasedUntil leaseId most =>
    [.timestamp now, .timestamp leasedUntil, .uuid leaseId, .integer (min most greatestLimit : Nat)]
  | release deliveryId leaseId => [.uuid deliveryId, .uuid leaseId]
  | countTasks => []
  | ping => []
  | define _ => []

end Statement

/-- A program of statements that ends in a value or an error of the store. -/
abbrev Query (α : Type) := ExceptT StoreError (Program Session) α

namespace Query

def send (statement : Statement) : Query Answer :=
  .mk (.step statement fun answer => .done (answer.mapError .ofSql) :
    Program Session (Except StoreError Answer))

def ofExcept (result : Except Error α) : Query α :=
  MonadExcept.ofExcept (result.mapError StoreError.ofSql)

end Query

def outOfReach (reason : String) : Program.World Session Unit := fun _ _ =>
  (some (.error (.connection reason)), ())

end HookRelay.Sql
