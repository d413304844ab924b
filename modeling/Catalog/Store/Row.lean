import Catalog.Entry.Basic
import Catalog.Failure
import Catalog.Sql.Value

namespace Catalog.Store

structure Row where
  id : Option Int64
  code : Option String
  text : Option String
  createdAt : Option Instant
  createdBy : Option String
  updatedAt : Option Instant
  updatedBy : Option String
  deletedAt : Option Instant
  deletedBy : Option String
  uuid : Option Uuid

def cell {α : Type} (c : Sql.Column) : Option α → Except DatabaseError α
  | some a => .ok a
  | none => .error (.nullColumn c.name)

/-- The entry in a row. The first null where there may be none is an error. -/
def Row.entry (r : Row) : Except DatabaseError Entry := do
  return {
    id := ← cell .id r.id
    code := ← cell .code r.code
    text := ← cell .text r.text
    createdAt := ← cell .createdAt r.createdAt
    createdBy := ← cell .createdBy r.createdBy
    updatedAt := r.updatedAt
    updatedBy := r.updatedBy
    deletedAt := r.deletedAt
    deletedBy := r.deletedBy
    uuid := ← cell .uuid r.uuid }

end Catalog.Store
