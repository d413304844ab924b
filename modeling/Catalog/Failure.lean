import Catalog.Duration
import Catalog.Json.Basic

namespace Catalog

inductive DatabaseError where
  | acquireTimeout
  | acquireClosed
  | connection (reason : String)
  | execution (reason : String)
  | query (reason : String)
  | recordNotFound (what : String)
  | type (reason : String)
  | json (reason : String)
  | migration (reason : String)
  | attributeNotSet (name : String)
  | notFromU64 (target : String)
  | conversion (source target reason : String)
  | noInsertId
  | noPrimaryKey
  | notInserted
  | notUpdated
  | custom (reason : String)
  deriving DecidableEq, Repr

namespace DatabaseError

def message : DatabaseError → String
  | acquireTimeout => "Failed to acquire connection from pool: Connection pool timed out"
  | acquireClosed => "Failed to acquire connection from pool: Connection closed"
  | connection reason => s!"Connection Error: {reason}"
  | execution reason => s!"Execution Error: {reason}"
  | query reason => s!"Query Error: {reason}"
  | recordNotFound what => s!"RecordNotFound Error: {what}"
  | type reason => s!"Type Error: {reason}"
  | json reason => s!"Json Error: {reason}"
  | migration reason => s!"Migration Error: {reason}"
  | attributeNotSet name => s!"Attribute {name} is NotSet"
  | notFromU64 target => "Type '" ++ target ++ "' cannot be converted from u64"
  | conversion source target reason =>
    "Error converting `" ++ source ++ "` into `" ++ target ++ "`: " ++ reason
  | noInsertId => "Failed to unpack last_insert_id"
  | noPrimaryKey => "Failed to get primary key from model"
  | notInserted => "None of the records are inserted"
  | notUpdated => "None of the records are updated"
  | custom reason => s!"Custom Error: {reason}"

def nullColumn (column : String) : DatabaseError :=
  .type ("A null value was encountered while decoding \"" ++ column ++ "\"")

def unknownMigration (version : String) : String :=
  "Migration file of version '" ++ version ++
    "' is missing, this migration has been applied but its file is missing"

def unknownMigrations (versions : List String) : DatabaseError :=
  .custom ("\n".intercalate (versions.map unknownMigration))

end DatabaseError

inductive Failure where
  | notFound
  | conflict (what : String)
  | validation (problem : String)
  | badRequest (problem : String)
  | database (error : DatabaseError)
  | unavailable (reason : String)
  | timeout (limit : Duration)
  | internal (problem : String)
  deriving DecidableEq, Repr

namespace Failure

/-- An error of the connection makes the database unavailable, and a missing record is a failure of
its own. All else is an error of the statement. -/
def ofDatabase : DatabaseError → Failure
  | .acquireTimeout => .unavailable "Connection pool timed out"
  | .acquireClosed => .unavailable "Connection closed"
  | .connection reason => .unavailable reason
  | .recordNotFound _ => .notFound
  | e => .database e

def code : Failure → String
  | notFound => "NOT_FOUND"
  | conflict _ => "CONFLICT"
  | validation _ => "VALIDATION_ERROR"
  | badRequest _ => "BAD_REQUEST"
  | database _ => "DATABASE_ERROR"
  | unavailable _ => "DATABASE_UNAVAILABLE"
  | timeout _ => "TIMEOUT"
  | internal _ => "INTERNAL_ERROR"

def exitCode : Failure → Nat
  | validation _ | badRequest _ => 65
  | notFound => 66
  | unavailable _ | timeout _ => 69
  | database _ | internal _ => 70
  | conflict _ => 73

/-- The wording for a log, which still leaves the cause out where it may be confidential. -/
def message : Failure → String
  | notFound => "Resource not found"
  | conflict what => s!"{what} already exists"
  | validation problem => problem
  | badRequest problem => s!"Invalid input: {problem}"
  | database _ => "Database error"
  | unavailable reason => s!"Database unavailable: {reason}"
  | timeout limit => s!"Query exceeded deadline of {limit.text}"
  | internal _ => "Internal server error"

/-- The wording for a user, who is told nothing about the inside of the system. -/
def userMessage : Failure → String
  | database _ => "A database error occurred"
  | unavailable _ => "The database is unavailable"
  | internal _ => "An internal error occurred"
  | f => f.message

def detail? : Failure → Option String
  | database e => some e.message
  | internal problem => some problem
  | _ => none

def response (f : Failure) : Json :=
  .ofMembers [("error", .ofMembers [("code", .text f.code), ("message", .text f.userMessage)])]

def orNotFound {α : Type} : Option α → Except Failure α
  | some a => .ok a
  | none => .error .notFound

end Failure

end Catalog
