import Catalog.Listing.Filter
import Catalog.Session
import Catalog.Sql.Request
import Catalog.Store.Row

namespace Catalog.Store

/-- A call of a store of entries. Those that write carry the name of who is to be on record. -/
inductive Call where
  | list (f : Filter)
  | findById (id : Int64)
  | findByCode (code : String)
  | create (d : Draft) (actor : String)
  | update (id : Int64) (c : Changes) (actor : String)
  | delete (id : Int64) (actor : String)
  | restore (id : Int64) (actor : String)
  deriving DecidableEq

def Call.Answer : Call → Type
  | list _ => List Entry
  | findById _ | findByCode _ => Option Entry
  | create .. | update .. | restore .. => Entry
  | delete .. => Unit

abbrev Reply := Except DatabaseError (List Row)

abbrev Conversation := ExceptT Failure (Session Sql.Request fun _ => Reply)

/-- How a store answers its calls. -/
abbrev Behaviour := (c : Call) → Conversation c.Answer

def ofDatabase {α : Type} : Except DatabaseError α → Conversation α
  | .ok a => pure a
  | .error e => throw (.ofDatabase e)

def rows (r : Sql.Request) : Conversation (List Row) := do
  let reply : Reply ← (.question r : Session Sql.Request (fun _ => Reply) Reply)
  ofDatabase reply

def entries (r : Sql.Request) : Conversation (List Entry) := do
  let found ← rows r
  ofDatabase (found.mapM Row.entry)

def firstEntry (r : Sql.Request) : Conversation (Option Entry) := do
  let found ← rows r
  ofDatabase (found.head?.mapM Row.entry)

def nothingToRestore : Failure :=
  .validation "Example is not deleted or does not exist"

end Catalog.Store
