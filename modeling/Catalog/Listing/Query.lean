import Catalog.Listing.Count
import Catalog.Sql.Request

namespace Catalog.Filter

open Sql

def position? (f : Filter) (field : Field) : Option Nat :=
  if f.position field = 0 then none else some (f.position field)

/-- Active entries; with a search text, those that have it in their code or text. -/
def query (f : Filter) : Select Nat where
  conditions := .isNull .deletedAt ::
    ((f.position? .search).map fun n =>
      .anyLike [(.code, .around n), (.text, .around n)]).toList
  limit := f.position? .limit
  offset := f.position? .offset

def sql (f : Filter) : String :=
  f.query.text .plain placeholder

def baseSql : String := sql {}

/-- The tokens of a field's placeholder, `$0` if it has none. -/
def token (f : Filter) (field : Field) : String :=
  placeholder (f.position field)

def bindOne (field : Field) (argument : String) : Except Failure Value :=
  match field with
  | .search => .ok (.ofText argument)
  | .limit | .offset => (parseCount field argument).map .ofInt

def argumentMismatch (fields arguments : Nat) : Failure :=
  .internal s!"filter has {fields} present fields but {arguments} arguments"

def bindValues (f : Filter) (arguments : List String) : Except Failure (List Value) :=
  let fields := f.present.map Prod.fst
  if fields.length = arguments.length then
    (fields.zip arguments).mapM fun p => bindOne p.1 p.2
  else .error (argumentMismatch fields.length arguments.length)

end Catalog.Filter
