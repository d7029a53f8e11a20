import HookRelay.Proofs.Sql.Row
import HookRelay.Sql.Store

/-!
Values with rows of their own in a database that holds what is bound for a column and gives it back.
A repository whose queries are single statements about rows that its values can be told from gives
back what was written to it.
-/
namespace HookRelay.Sql

variable {α : Type} {row changes other : Row} {columns : List String} {column : String}

namespace Row

theorem lookup_project (row : Row) (columns : List String) (column : String) :
    (row.project columns).lookup column =
      if column ∈ columns then row.lookup column else none := by
  induction columns with
  | nil => rfl
  | cons first rest ih =>
    rw [project] at ih ⊢
    cases held : row.lookup first with
    | none =>
      rw [List.filterMap_cons_none (by rw [held]; rfl), ih]
      by_cases same : column = first
      · subst same
        simp [held]
      · simp [same]
    | some value =>
      rw [List.filterMap_cons_some (by rw [held]; rfl), List.lookup_cons, ih]
      by_cases same : column = first
      · subst same
        simp [held]
      · rw [beq_false_of_ne same]
        simp [same]

theorem lookup_change (row changes : Row) (column : String) :
    (row.change changes).lookup column =
      (row.lookup column).map fun held => (changes.lookup column).getD held := by
  induction row with
  | nil => rfl
  | cons first rest ih =>
    obtain ⟨name, held⟩ := first
    rw [change] at ih ⊢
    rw [List.map_cons, List.lookup_cons, List.lookup_cons, ih]
    by_cases same : column = name
    · subst same
      simp
    · rw [beq_false_of_ne same]

theorem agrees_project (columns : List String) (row : Row) :
    Agrees columns (row.project columns) row := by
  intro column member
  rw [lookup_project, if_pos member]

theorem Agrees.trans {third : Row} (first : Agrees columns row other)
    (second : Agrees columns other third) : Agrees columns row third :=
  fun column member => (first column member).trans (second column member)

theorem Agrees.symm (agrees : Agrees columns row other) : Agrees columns other row :=
  fun column member => (agrees column member).symm

theorem Agrees.change (agrees : Agrees columns row other) (changes : Row) :
    Agrees columns (row.change changes) (other.change changes) := by
  intro column member
  rw [lookup_change, lookup_change, agrees column member]

end Row

namespace Database

/-- What a query comes to in a database, and what it leaves. -/
def ask (database : Database) (server : Server) (query : Query α) :
    Option (Except StoreError α) × Database :=
  query.run.run (Database.world server) database

variable {database after : Database} {server : Server} {statement : Statement}

theorem ask_send {answer : Answer}
    (answered : database.execute server statement = (.ok answer, after))
    (accepted : statement.parameters.all server.accepts = true) (next : Answer → Query α) :
    database.ask server (Query.send statement >>= next) = after.ask server (next answer) := by
  have replied : world server statement database = (some (.ok answer), after) := by
    unfold world
    rw [if_pos accepted, answered]
  exact @Program.run_step Session _ _ (world server) statement _ _ _ replied _

theorem ask_send_error {error : Error}
    (answered : database.execute server statement = (.error error, after))
    (accepted : statement.parameters.all server.accepts = true) (next : Answer → Query α) :
    database.ask server (Query.send statement >>= next) =
      (some (.error (.ofSql error)), after) := by
  have replied : world server statement database = (some (.error error), after) := by
    unfold world
    rw [if_pos accepted, answered]
  exact @Program.run_step Session _ _ (world server) statement _ _ _ replied _

/-- A statement with a value that the server does not take in comes to nothing. -/
theorem ask_send_of_refused (refused : statement.parameters.all server.accepts = false)
    (next : Answer → Query α) :
    database.ask server (Query.send statement >>= next) = (some (.error (.database
      "error returned from database: invalid byte sequence for encoding \"UTF8\": 0x00")),
        database) := by
  have replied : (world server statement database).1 = some (.error (.server "22021"
      "invalid byte sequence for encoding \"UTF8\": 0x00")) ∧
      (world server statement database).2 = database := by
    unfold world
    rw [refused]
    exact ⟨rfl, rfl⟩
  exact @Program.run_step Session _ _ (world server) statement _ _ _ (Prod.ext replied.1 replied.2) _

end Database

/-- A kind of values with rows of their own: how they are laid out, and the queries about them. -/
structure Repository (α : Type) where
  relation : Relation
  columns : List String
  saved : List String
  id : α → Uuid
  row : α → Row
  decode : Row → Except Error α
  create : α → Query Uuid
  find : Uuid → Query (Option α)
  save : α → Query Unit

namespace Repository

private def inserted (answer : Answer) : Query Uuid :=
  match answer.rows with
  | [] => throw (.ofSql .noRow)
  | row :: _ => Query.ofExcept (row.get "id" Row.uuid?)

private def selected (decode : Row → Except Error α) (answer : Answer) : Query (Option α) :=
  match answer.rows with
  | [] => pure none
  | row :: _ => Query.ofExcept ((decode row).map some)

private def updated (what : String) (answer : Answer) : Query Unit :=
  if answer.affected = 0 then throw (.notFound what) else pure ()

/-- The queries of a repository are single statements about rows that its values can be told from;
nothing is sent for a value with a number out of bounds. -/
structure Lawful (repository : Repository α) (typed : α → Prop) (bounds savedBounds : α → List Bound)
    (what : α → String) : Prop where
  columns_eq : ∀ value, (repository.row value).map Prod.fst = repository.columns
  saved_eq : ∀ value, ((repository.row value).project repository.saved).map Prod.fst =
    repository.saved
  named : ∀ value, (repository.row value).id? = some (repository.id value)
  decode_eq_ok : ∀ row value, repository.decode row = .ok value ↔
    Row.Agrees repository.columns row (repository.row value) ∧ typed value
  create_eq : ∀ value, repository.create value = do
    let values ← MonadExcept.ofExcept
      (Bound.hold ((repository.row value).map Prod.snd) (bounds value))
    Query.send (.insert repository.relation repository.columns values) >>= inserted
  find_eq : ∀ id, repository.find id =
    Query.send (.select repository.relation repository.columns (.withId id)) >>=
      selected repository.decode
  save_eq : ∀ value, repository.save value = do
    let values ← MonadExcept.ofExcept
      (Bound.hold (((repository.row value).project repository.saved).map Prod.snd)
        (savedBounds value))
    Query.send (.update repository.relation (repository.id value) repository.saved values) >>=
      updated (what value)

namespace Lawful

variable {repository : Repository α} {typed : α → Prop} {bounds savedBounds : α → List Bound}
  {what : α → String} {database : Database} {server : Server} {value stored : α} {id : Uuid}

theorem ask_find (lawful : repository.Lawful typed bounds savedBounds what)
    (accepted : server.accepts (.uuid id) = true) :
    database.ask server (repository.find id) =
      (some (match (database.rows repository.relation).find? id with
        | none => .ok none
        | some row =>
          ((repository.decode (row.project repository.columns)).map some).mapError .ofSql),
        database) := by
  rw [lawful.find_eq, Database.ask_send (Database.execute_select_withId ..)
    (by simp [Statement.parameters, Condition.parameters, accepted])]
  cases (database.rows repository.relation).find? id with
  | none => rfl
  | some row =>
    show database.ask server
      (Query.ofExcept ((repository.decode (row.project repository.columns)).map some)) = _
    dsimp only
    cases repository.decode (row.project repository.columns) with
    | error error => rfl
    | ok value => rfl

theorem find_eq_none_iff (lawful : repository.Lawful typed bounds savedBounds what)
    (accepted : server.accepts (.uuid id) = true) :
    database.ask server (repository.find id) = (some (.ok none), database) ↔
      (database.rows repository.relation).find? id = none := by
  rw [lawful.ask_find accepted]
  cases (database.rows repository.relation).find? id with
  | none => simp
  | some row =>
    dsimp only
    cases repository.decode (row.project repository.columns) with
    | error error =>
      dsimp only [Except.map, Except.mapError]
      simp
    | ok value =>
      dsimp only [Except.map, Except.mapError]
      simp

theorem find_eq_some_iff (lawful : repository.Lawful typed bounds savedBounds what)
    (accepted : server.accepts (.uuid id) = true) :
    database.ask server (repository.find id) = (some (.ok (some value)), database) ↔
      ∃ row, (database.rows repository.relation).find? id = some row ∧
        Row.Agrees repository.columns row (repository.row value) ∧ typed value := by
  rw [lawful.ask_find accepted]
  cases (database.rows repository.relation).find? id with
  | none => simp
  | some row =>
    have read : repository.decode (row.project repository.columns) = .ok value ↔
        Row.Agrees repository.columns row (repository.row value) ∧ typed value := by
      rw [lawful.decode_eq_ok]
      constructor
      · rintro ⟨agrees, kind⟩
        exact ⟨(Row.agrees_project _ row).symm.trans agrees, kind⟩
      · rintro ⟨agrees, kind⟩
        exact ⟨(Row.agrees_project _ row).trans agrees, kind⟩
    simp only [Option.some.injEq, exists_eq_left', ← read]
    cases repository.decode (row.project repository.columns) with
    | error error =>
      dsimp only [Except.map, Except.mapError]
      simp
    | ok value =>
      dsimp only [Except.map, Except.mapError]
      simp

theorem create_run_of_beyond (lawful : repository.Lawful typed bounds savedBounds what)
    {bound : Bound} (member : bound ∈ bounds value) (beyond : bound.below ≤ bound.value) :
    ∃ complaint, (repository.create value).run = .done (.error (.invalidInput complaint)) := by
  obtain ⟨complaint, refused⟩ := Bound.hold_of_beyond member beyond ((repository.row value).map Prod.snd)
  refine ⟨complaint, ?_⟩
  rw [lawful.create_eq, refused]
  rfl

theorem save_run_of_beyond (lawful : repository.Lawful typed bounds savedBounds what)
    {bound : Bound} (member : bound ∈ savedBounds value) (beyond : bound.below ≤ bound.value) :
    ∃ complaint, (repository.save value).run = .done (.error (.invalidInput complaint)) := by
  obtain ⟨complaint, refused⟩ :=
    Bound.hold_of_beyond member beyond
      (((repository.row value).project repository.saved).map Prod.snd)
  refine ⟨complaint, ?_⟩
  rw [lawful.save_eq, refused]
  rfl

theorem ask_create (lawful : repository.Lawful typed bounds savedBounds what)
    (verbatim : server.Verbatim) (within : ∀ bound ∈ bounds value, bound.value < bound.below)
    (free : (database.rows repository.relation).find? (repository.id value) = none)
    (refers : repository.relation = .deliveries → ∃ owner,
      (repository.row value).lookup "subscription_id" = some (.uuid owner) ∧
        (database.subscriptions.find? owner).isSome = true)
    (accepted : ((repository.row value).map Prod.snd).all server.accepts = true) :
    database.ask server (repository.create value) = (some (.ok (repository.id value)),
      database.put (repository.id value) (repository.row value) repository.relation) := by
  rw [lawful.create_eq, Bound.hold_of_within within]
  have inserted := Database.execute_insert verbatim accepted (lawful.named value) free refers
  rw [lawful.columns_eq value] at inserted
  exact Database.ask_send inserted accepted _

theorem ask_save {row : Row} (lawful : repository.Lawful typed bounds savedBounds what)
    (verbatim : server.Verbatim) (within : ∀ bound ∈ savedBounds value, bound.value < bound.below)
    (held : (database.rows repository.relation).find? (repository.id value) = some row)
    (accepted :
      (((repository.row value).project repository.saved).map Prod.snd).all server.accepts = true) :
    database.ask server (repository.save value) = (some (.ok ()),
      database.put (repository.id value)
        (row.change ((repository.row value).project repository.saved)) repository.relation) := by
  rw [lawful.save_eq, Bound.hold_of_within within]
  have updated := Database.execute_update verbatim accepted held
  rw [lawful.saved_eq value] at updated
  refine Database.ask_send updated ?_ _
  rw [Statement.parameters, List.all_cons, verbatim.takesIds, accepted]
  rfl

end Lawful

/-- A value is found as it is. -/
def Finds (repository : Repository α) (server : Server) (database : Database) (value : α) : Prop :=
  database.ask server (repository.find (repository.id value)) = (some (.ok (some value)), database)

/-- What is found under other ids does not change. -/
def SameBut (repository : Repository α) (server : Server) (id : Uuid)
    (database after : Database) : Prop :=
  ∀ other, other ≠ id → (after.ask server (repository.find other)).1 =
    (database.ask server (repository.find other)).1

/-- A repository that gives back what was written, of what the server takes in. -/
structure Faithful (repository : Repository α) (server : Server) (typed fits savable : α → Prop)
    (enters : α → Database → Prop) (kept : α → α → α) (broken : Row → Prop) : Prop where
  created : ∀ database value, typed value → fits value → enters value database →
    ((repository.row value).map Prod.snd).all server.accepts = true →
    database.ask server (repository.find (repository.id value)) =
      (some (.ok none), database) →
    ∃ after, database.ask server (repository.create value) =
        (some (.ok (repository.id value)), after) ∧
      repository.Finds server after value ∧
      repository.SameBut server (repository.id value) database after
  saved : ∀ database value stored, typed value → savable value →
    (((repository.row value).project repository.saved).map Prod.snd).all server.accepts = true →
    repository.id stored = repository.id value → repository.Finds server database stored →
    ∃ after, database.ask server (repository.save value) = (some (.ok ()), after) ∧
      repository.Finds server after (kept value stored) ∧
      repository.SameBut server (repository.id value) database after
  unfit : ∀ value, ¬ fits value →
    ∃ complaint, (repository.create value).run = .done (.error (.invalidInput complaint))
  unsavable : ∀ value, ¬ savable value →
    ∃ complaint, (repository.save value).run = .done (.error (.invalidInput complaint))
  undecoded : ∀ (database : Database) id row, (database.rows repository.relation).find? id = some row →
    broken row → ∃ error,
      database.ask server (repository.find id) = (some (.error error), database)

namespace Lawful

variable {repository : Repository α} {typed fits savable : α → Prop}
  {bounds savedBounds : α → List Bound} {what : α → String} {enters : α → Database → Prop}
  {kept : α → α → α} {broken : Row → Prop} {server : Server}

private theorem sameBut_put (lawful : repository.Lawful typed bounds savedBounds what)
    (verbatim : server.Verbatim) (database : Database) (id : Uuid) (row : Row) :
    repository.SameBut server id database (database.put id row repository.relation) := by
  intro other different
  rw [lawful.ask_find (verbatim.takesIds _), lawful.ask_find (verbatim.takesIds _),
    Database.rows_put, if_pos rfl, Table.find?_put,
    if_neg different]

theorem finds_put (lawful : repository.Lawful typed bounds savedBounds what)
    {database : Database} {value : α}
    (accepted : server.accepts (.uuid (repository.id value)) = true) (kind : typed value) {row : Row}
    (agrees : Row.Agrees repository.columns row (repository.row value)) :
    repository.Finds server (database.put (repository.id value) row repository.relation)
      value := by
  refine (lawful.find_eq_some_iff accepted).mpr ⟨row, ?_, agrees, kind⟩
  rw [Database.rows_put, if_pos rfl, Table.find?_put, if_pos rfl]

theorem finds_of_rows_eq (lawful : repository.Lawful typed bounds savedBounds what)
    {database after : Database} {value : α}
    (accepted : server.accepts (.uuid (repository.id value)) = true)
    (same : after.rows repository.relation = database.rows repository.relation)
    (found : repository.Finds server database value) : repository.Finds server after value := by
  refine (lawful.find_eq_some_iff accepted).mpr ?_
  rw [same]
  exact (lawful.find_eq_some_iff accepted).mp found

theorem faithful (lawful : repository.Lawful typed bounds savedBounds what)
    (verbatim : server.Verbatim)
    (fits_iff : ∀ value, fits value ↔ ∀ bound ∈ bounds value, bound.value < bound.below)
    (savable_iff : ∀ value, savable value ↔ ∀ bound ∈ savedBounds value, bound.value < bound.below)
    (refers : ∀ value database, enters value database → repository.relation = .deliveries →
      ∃ owner, (repository.row value).lookup "subscription_id" = some (.uuid owner) ∧
        (database.subscriptions.find? owner).isSome = true)
    (kept_id : ∀ value stored, repository.id (kept value stored) = repository.id stored)
    (kept_typed : ∀ value stored, typed value → typed (kept value stored))
    (kept_row : ∀ value stored, Row.Agrees repository.columns
      ((repository.row stored).change ((repository.row value).project repository.saved))
      (repository.row (kept value stored)))
    (broken_row : ∀ row value, broken row →
      Row.Agrees repository.columns row (repository.row value) → ¬ typed value) :
    repository.Faithful server typed fits savable enters kept broken where
  created database value kind within entered accepted free := by
    have free := (lawful.find_eq_none_iff (verbatim.takesIds _)).mp free
    refine ⟨_, lawful.ask_create verbatim ((fits_iff value).mp within) free
      (refers value database entered) accepted, ?_, ?_⟩
    · exact lawful.finds_put (verbatim.takesIds _) kind fun _ _ => rfl
    · exact lawful.sameBut_put verbatim database _ _
  saved database value stored kind within accepted same found := by
    obtain ⟨row, held, agrees, _⟩ := (lawful.find_eq_some_iff (verbatim.takesIds _)).mp found
    rw [same] at held
    refine ⟨_, lawful.ask_save verbatim ((savable_iff value).mp within) held accepted, ?_, ?_⟩
    · rw [← same, ← kept_id value stored]
      exact lawful.finds_put (verbatim.takesIds _) (kept_typed value stored kind)
        ((agrees.change _).trans (kept_row value stored))
    · exact lawful.sameBut_put verbatim database _ _
  unfit value beyond := by
    obtain ⟨bound, member, beyond⟩ : ∃ bound ∈ bounds value, bound.below ≤ bound.value := by
      simpa [fits_iff] using beyond
    exact lawful.create_run_of_beyond member beyond
  unsavable value beyond := by
    obtain ⟨bound, member, beyond⟩ : ∃ bound ∈ savedBounds value, bound.below ≤ bound.value := by
      simpa [savable_iff] using beyond
    exact lawful.save_run_of_beyond member beyond
  undecoded database id row held bad := by
    rw [lawful.ask_find (verbatim.takesIds id), held]
    dsimp only
    cases read : repository.decode (row.project repository.columns) with
    | error error => exact ⟨_, rfl⟩
    | ok value =>
      obtain ⟨agrees, kind⟩ := (lawful.decode_eq_ok _ _).mp read
      exact absurd kind (broken_row row value bad ((Row.agrees_project _ row).symm.trans agrees))

end Lawful

end Repository

end HookRelay.Sql
