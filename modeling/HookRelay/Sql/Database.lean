import HookRelay.Queue
import HookRelay.Sql.Row
import HookRelay.Table

/-!
A database in memory, which holds every value under the column in whose place it was bound. Which
values it takes in, and what comes back of them, is up to the server and the codecs of its driver.
-/
namespace HookRelay.Sql

/-- What becomes of a value that is bound: whether it is taken in, and as what it is held after the
driver has written it, to be read again when it is asked for. -/
structure Server where
  accepts : Value → Bool
  carries : Value → Value

namespace Server

/-- What is relied on: every id is taken in, and each value that is taken in comes back as it was.
With a text or a number that is up to the server, with JSON and timestamps to the codecs as well. -/
structure Verbatim (server : Server) : Prop where
  takesIds : ∀ id, server.accepts (.uuid id) = true
  givesBack : ∀ value, server.accepts value = true → server.carries value = value

theorem Verbatim.map_carries {server : Server} (verbatim : server.Verbatim) {values : List Value}
    (accepted : values.all server.accepts = true) : values.map server.carries = values := by
  have same (value : Value) (member : value ∈ values) : server.carries value = id value :=
    verbatim.givesBack value (List.all_eq_true.mp accepted value member)
  rw [List.map_congr_left same, List.map_id]

end Server

namespace Row

def id? (row : Row) : Option Uuid := (row.lookup "id").bind uuid?

def change (row changes : Row) : Row :=
  row.map fun (column, held) => (column, (changes.lookup column).getD held)

def project (row : Row) (columns : List String) : Row :=
  columns.filterMap fun column => (row.lookup column).map (column, ·)

private def createdBefore (left right : Row) : Bool :=
  match (left.lookup "created_at").bind timestamp?, (right.lookup "created_at").bind timestamp? with
  | some left, some right => left ≤ right
  | _, _ => true

private def hasPreviousSecret (row : Row) : Bool :=
  ((row.lookup "previous_secret").bind secret?).isSome

end Row

def Condition.select (rows : Table Uuid Row) : Condition → List Row
  | withId id => (rows.find? id).toList
  | listensTo eventType =>
    (rows.values.filter fun row =>
      (row.lookup "status").bind Row.text? = some "active" &&
        ((row.lookup "event_types").bind Row.texts?).any (·.contains eventType)).mergeSort
          Row.createdBefore
  | hasPreviousSecret => rows.values.filter Row.hasPreviousSecret

structure Database where
  subscriptions : Table Uuid Row
  deliveries : Table Uuid Row
  tasks : Table Uuid Slot

namespace Database

def empty : Database := ⟨.empty, .empty, .empty⟩

def rows (database : Database) : Relation → Table Uuid Row
  | .subscriptions => database.subscriptions
  | .deliveries => database.deliveries

def put (database : Database) (id : Uuid) (row : Row) : Relation → Database
  | .subscriptions => { database with subscriptions := database.subscriptions.put id row }
  | .deliveries => { database with deliveries := database.deliveries.put id row }

private def refused (code message : String) (database : Database) :
    Except Error Answer × Database :=
  (.error (.server code message), database)

private def answered (rows : List Row) (database : Database) : Except Error Answer × Database :=
  (.ok ⟨rows, rows.length⟩, database)

private def affecting (count : Nat) (database : Database) : Except Error Answer × Database :=
  (.ok ⟨[], count⟩, database)

private def refersToHeld (database : Database) (row : Row) : Relation → Bool
  | .subscriptions => true
  | .deliveries =>
    ((row.lookup "subscription_id").bind Row.uuid?).any fun id =>
      (database.subscriptions.find? id).isSome

def insert (database : Database) (relation : Relation) (row : Row) :
    Except Error Answer × Database :=
  match row.id? with
  | none => database.refused "23502" "null value in column \"id\" violates not-null constraint"
  | some id =>
    if ((database.rows relation).find? id).isSome then
      database.refused "23505"
        s!"duplicate key value violates unique constraint \"{relation.name}_pkey\""
    else if !database.refersToHeld row relation then
      database.refused "23503"
        s!"insert or update on table \"{relation.name}\" violates foreign key constraint"
    else (database.put id row relation).answered [[("id", .uuid id)]]

def update (database : Database) (relation : Relation) (id : Uuid) (test : Row → Bool)
    (changes : Row → Row) : Except Error Answer × Database :=
  match (database.rows relation).find? id with
  | none => database.affecting 0
  | some row =>
    if test row then (database.put id (row.change (changes row)) relation).affecting 1
    else database.affecting 0

private def oneMore (counter : Counter) (row : Row) : Value :=
  match (row.lookup counter.column).bind Row.integer? with
  | some total => .integer (total + 1)
  | none => .null

private def previousExpired (now : Instant) (row : Row) : Bool :=
  row.hasPreviousSecret &&
    ((row.lookup "previous_secret_expires_at").bind Row.timestamp?).any (· < now)

def claim (database : Database) (now leasedUntil : Instant) (leaseId : Uuid) (most : Nat) :
    List Uuid × Database :=
  let due := database.tasks.rows.filter fun task => task.2.due ≤ now
  let first := (due.mergeSort fun left right => left.2.due ≤ right.2.due).take most
  let claimed := first.map Prod.fst
  (claimed, { database with
    tasks := claimed.foldl (fun tasks id => tasks.put id ⟨leasedUntil, some leaseId⟩)
      database.tasks })

/-- Removes a task that is held under the lease; gives how many that were. -/
def release (database : Database) (deliveryId leaseId : Uuid) : Nat × Database :=
  if ((database.tasks.find? deliveryId).bind (·.leaseId)) = some leaseId then
    (1, { database with tasks := database.tasks.erase deliveryId })
  else (0, database)

private def wrongCount (columns : List String) (values : List Value) : String :=
  s!"bind message supplies {values.length} parameters, but {columns.length} are required"

def execute (server : Server) (database : Database) :
    Statement → Except Error Answer × Database
  | .insert relation columns values =>
    if values.length ≠ columns.length then database.refused "08P01" (wrongCount columns values)
    else database.insert relation (columns.zip (values.map server.carries))
  | .select relation columns condition =>
    database.answered ((condition.select (database.rows relation)).map (·.project columns))
  | .update relation id columns values =>
    if values.length ≠ columns.length then database.refused "08P01" (wrongCount columns values)
    else database.update relation id (fun _ => true) fun _ =>
      columns.zip (values.map server.carries)
  | .increment counter id now =>
    database.update .subscriptions id (fun _ => true) fun row =>
      [(counter.column, oneMore counter row),
        ("last_triggered_at", server.carries (.timestamp now))]
  | .clearExpiredPrevious id now =>
    database.update .subscriptions id (previousExpired now) fun _ =>
      [("previous_secret", .null), ("previous_secret_expires_at", .null),
        ("updated_at", server.carries (.timestamp now))]
  | .schedule deliveryId due =>
    if (database.deliveries.find? deliveryId).isNone then
      database.refused "23503"
        "insert or update on table \"delivery_tasks\" violates foreign key constraint"
    else ({ database with tasks := database.tasks.put deliveryId ⟨due, none⟩ }).affecting 1
  | .claim now leasedUntil leaseId most =>
    let most := min most Statement.greatestLimit
    let (claimed, database) := database.claim now leasedUntil leaseId most
    database.answered (claimed.map fun id => [("delivery_id", .uuid id)])
  | .release deliveryId leaseId =>
    let (count, database) := database.release deliveryId leaseId
    database.affecting count
  | .countTasks => database.answered [[("count", .integer database.tasks.rows.length)]]
  | .ping => database.answered [[("?column?", .integer 1)]]
  | .define _ => database.affecting 0

variable {database : Database} {relation : Relation} {id : Uuid} {row : Row} {server : Server}

theorem rows_put (database : Database) (id : Uuid) (row : Row) (relation other : Relation) :
    (database.put id row relation).rows other =
      if other = relation then (database.rows relation).put id row else database.rows other := by
  cases relation <;> cases other <;> rfl

/-- A row is inserted under an id that is free, and next to the row that it refers to. -/
theorem execute_insert (verbatim : server.Verbatim)
    (accepted : (row.map Prod.snd).all server.accepts = true) (named : row.id? = some id)
    (free : (database.rows relation).find? id = none)
    (refers : relation = .deliveries → ∃ owner, row.lookup "subscription_id" = some (.uuid owner) ∧
      (database.subscriptions.find? owner).isSome = true) :
    database.execute server (.insert relation (row.map Prod.fst) (row.map Prod.snd)) =
      (.ok ⟨[[("id", .uuid id)]], 1⟩, database.put id row relation) := by
  have refers : database.refersToHeld row relation = true := by
    cases relation with
    | subscriptions => rfl
    | deliveries =>
      obtain ⟨owner, named, held⟩ := refers rfl
      simp [refersToHeld, named, Row.uuid?, held]
  have placed : (row.map Prod.fst).zip ((row.map Prod.snd).map server.carries) = row := by
    rw [verbatim.map_carries accepted]
    exact (List.zip_of_prod rfl rfl).symm
  simp only [execute, List.length_map, ne_eq, not_true_eq_false, if_false, placed, insert, named,
    free, refers]
  rfl

theorem execute_select_withId (server : Server) (database : Database) (relation : Relation)
    (columns : List String) (id : Uuid) :
    database.execute server (.select relation columns (.withId id)) =
      let rows := ((database.rows relation).find? id).toList.map (·.project columns)
      (.ok ⟨rows, rows.length⟩, database) := rfl

theorem execute_update {changes : Row} (verbatim : server.Verbatim)
    (accepted : (changes.map Prod.snd).all server.accepts = true)
    (held : (database.rows relation).find? id = some row) :
    database.execute server (.update relation id (changes.map Prod.fst) (changes.map Prod.snd)) =
      (.ok ⟨[], 1⟩, database.put id (row.change changes) relation) := by
  have placed : (changes.map Prod.fst).zip ((changes.map Prod.snd).map server.carries) =
      changes := by
    rw [verbatim.map_carries accepted]
    exact (List.zip_of_prod rfl rfl).symm
  simp only [execute, List.length_map, ne_eq, not_true_eq_false, if_false, placed, update, held]
  rfl

theorem execute_increment (server : Server) (database : Database) (counter : Counter) (id : Uuid)
    (now : Instant) :
    (database.execute server (.increment counter id now)).2.deliveries = database.deliveries := by
  simp only [execute, update]
  split <;> rfl

/-- A statement is carried out if the server takes in all that is bound in it. -/
def world (server : Server) : Program.World Session Database := fun statement database =>
  let (answer, database) :=
    if statement.parameters.all server.accepts then database.execute server statement
    else database.refused "22021" "invalid byte sequence for encoding \"UTF8\": 0x00"
  (some answer, database)

end Database

/-- A text may hold any character but the null character. -/
def Value.isStorable : Value → Bool
  | text value => !value.toList.contains '\x00'
  | texts values => values.all fun value => !value.toList.contains '\x00'
  | _ => true

/-- A server that refuses null characters in texts, and nothing else. -/
def Server.strict : Server := ⟨Value.isStorable, id⟩

theorem Server.verbatim_strict : Server.strict.Verbatim := ⟨fun _ => rfl, fun _ _ => rfl⟩

end HookRelay.Sql
