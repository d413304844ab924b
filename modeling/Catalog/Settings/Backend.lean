import Catalog.Text.Blank

namespace Catalog

/-- Which store serves the catalogue: the one that maps entries to statements, or the one with
statements written by hand. -/
inductive Backend where
  | orm
  | sql
  deriving DecidableEq, Repr

namespace Backend

def all : List Backend := [orm, sql]

def name : Backend → String
  | orm => "orm"
  | sql => "sql"

def names : Backend → List String
  | orm => [orm.name]
  | sql => [sql.name, "raw"]

def label : Backend → String
  | orm => "Orm"
  | sql => "Sql"

def default : Backend := sql

def sameLetters (s t : String) : Bool := s.toLower == t.toLower

/-- The backend that an option names, in letters of either case if `anyCase` says so. -/
def ofOption? (anyCase : Bool) (s : String) : Option Backend :=
  all.find? fun b => b.names.any fun n => if anyCase then sameLetters n s else n == s

def invalidOption (s : String) : String := s!"invalid variant: {s}"

def normalized (s : String) : String := (Text.trim s).toLower

def ofVariable? (s : String) : Option Backend :=
  match normalized s with
  | "orm" => some orm
  | "sql" | "raw" => some sql
  | _ => none

def invalidVariable (s : String) : String := s!"unknown database backend: {normalized s}"

end Backend

end Catalog
