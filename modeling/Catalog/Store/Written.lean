import Catalog.Listing.Query
import Catalog.Store.Basic

namespace Catalog.Store.Written

open Sql

def request (statement : Statement Nat) (values : List Value) (all : Bool) : Request :=
  { dialect := .plain, statement, values, all }

def one (statement : Statement Nat) (values : List Value) : Conversation (Option Entry) :=
  firstEntry (request statement values false)

def list (f : Filter) : Conversation (List Entry) := do
  let values ← f.bindValues f.arguments
  entries (request (.select f.query) values true)

def findById (id : Int64) : Conversation (Option Entry) :=
  one (.select { conditions := [.equal .id 1, .isNull .deletedAt] }) [.ofInt id]

def findByCode (code : String) : Conversation (Option Entry) :=
  one (.select { conditions := [.equal .code 1, .isNull .deletedAt] }) [.ofText code]

def create (d : Draft) (actor : String) : Conversation Entry := do
  let created ← one
    (.insert [(.code, 1), (.text, 2), (.createdAt, 3), (.createdBy, 4), (.uuid, 5)])
    [.ofText d.code, .ofText d.text, .now, .ofText actor, .freshUuid]
  match created with
  | some e => return e
  | none => throw (.internal "insert returned no row")

def update (id : Int64) (c : Changes) (actor : String) : Conversation Entry := do
  let updated ← one
    (.update
      [(.code, .toIfGiven 1), (.text, .toIfGiven 2), (.updatedAt, .to 3), (.updatedBy, .to 4)]
      [.equal .id 5, .isNull .deletedAt])
    [.text c.code, .text c.text, .now, .ofText actor, .ofInt id]
  Failure.orNotFound updated

def delete (id : Int64) (actor : String) : Conversation Unit := do
  let deleted ← one
    (.update [(.deletedAt, .to 1), (.deletedBy, .to 2)] [.equal .id 3, .isNull .deletedAt])
    [.now, .ofText actor, .ofInt id]
  let _ ← Failure.orNotFound deleted

def restore (id : Int64) (actor : String) : Conversation Entry := do
  let restored ← one
    (.update [(.deletedAt, .null), (.deletedBy, .null), (.updatedAt, .to 1), (.updatedBy, .to 2)]
      [.equal .id 3, .isNotNull .deletedAt])
    [.now, .ofText actor, .ofInt id]
  match restored with
  | some e => return e
  | none => throw nothingToRestore

/-- Every call is one statement. -/
def store : Behaviour
  | .list f => list f
  | .findById id => findById id
  | .findByCode code => findByCode code
  | .create d actor => create d actor
  | .update id c actor => update id c actor
  | .delete id actor => delete id actor
  | .restore id actor => restore id actor

end Catalog.Store.Written
