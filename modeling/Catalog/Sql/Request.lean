import Catalog.Sql.Dialect

namespace Catalog.Sql

/-- What is sent to the database: a statement, how it is written, the values of its placeholders,
and whether all of the rows that come back are wanted or only the first. -/
structure Request where
  dialect : Dialect
  statement : Statement Nat
  values : List Value
  all : Bool

namespace Request

def sql (r : Request) : String :=
  r.statement.text r.dialect placeholder

def ofStatement (s : Statement Value) (all : Bool) : Request :=
  let (statement, values) := s.numbered
  { dialect := .quoted, statement, values, all }

end Request

end Catalog.Sql
