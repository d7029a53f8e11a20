import HookRelay.Delivery.Error

namespace HookRelay

namespace Sql

inductive Error where
  | noRow
  | protocol (reason : String)
  | server (code message : String)
  | connection (reason : String)
  | missingColumn (column : String)
  | undecodable (reason : String)
  | undecodableColumn (column reason : String)
deriving DecidableEq, Repr

inductive Constraint where
  | unique
  | foreignKey
  | check
deriving DecidableEq, Repr

namespace Constraint

def text : Constraint → String
  | unique => "unique"
  | foreignKey => "foreign key"
  | check => "check"

def ofCode? (code : String) : Option Constraint :=
  if code = "23505" then some unique
  else if code = "23503" then some foreignKey
  else if code = "23514" then some check
  else none

end Constraint

namespace Error

def message : Error → String
  | noRow => "no rows returned by a query that expected to return at least one row"
  | protocol reason => "encountered unexpected or invalid data: " ++ reason
  | server _ message => "error returned from database: " ++ message
  | connection reason => "error communicating with database: " ++ reason
  | missingColumn column => "no column found for name: " ++ column
  | undecodable reason => "error occurred while decoding: " ++ reason
  | undecodableColumn column reason =>
    "error occurred while decoding column \"" ++ column ++ "\": " ++ reason

end Error

end Sql

/-- A row that is not there and a violated constraint have causes of their own; a violation is
told in the server's words. -/
def StoreError.ofSql (error : Sql.Error) : StoreError :=
  match error with
  | .noRow => .notFound "requested entity not found"
  | .server code message =>
    match Sql.Constraint.ofCode? code with
    | some violated => .constraintViolation (violated.text ++ " constraint violation: " ++ message)
    | none => .database error.message
  | _ => .database error.message

end HookRelay
