import Catalog.Listing.Count
import Catalog.Store.Basic

namespace Catalog.Store.Mapped

open Sql

def listing (f : Filter) : Except Failure (Select Value) := do
  let search := (f.value .search).map fun s =>
    let pattern : Value := .ofText ("%" ++ s ++ "%")
    .anyLike [(.code, .exactly pattern), (.text, .exactly pattern)]
  let limit ← (f.value .limit).mapM (Filter.parseCount .limit)
  let offset ← (f.value .offset).mapM (Filter.parseCount .offset)
  return {
    conditions := .isNull .deletedAt :: search.toList
    limit := limit.map fun n => .biguint (some n.toUInt64)
    offset := offset.map fun n => .biguint (some n.toUInt64) }

def find (conditions : List (Condition Value)) : Conversation (Option Entry) :=
  firstEntry (.ofStatement (.select { conditions, limit := some (.biguint (some 1)) }) false)

def findActive (id : Int64) : Conversation (Option Entry) :=
  find [.equal .id (.ofInt id), .isNull .deletedAt]

def change (id : Int64) (settings : List (Column × Value)) : Conversation Entry := do
  let settings := settings.map fun p => (p.1, .to p.2)
  match ← firstEntry (.ofStatement (.update settings [.equal .id (.ofInt id)]) false) with
  | some e => return e
  | none => throw (.ofDatabase .notUpdated)

def list (f : Filter) : Conversation (List Entry) := do
  let s ← listing f
  entries (.ofStatement (.select s) true)

def findByCode (code : String) : Conversation (Option Entry) :=
  find [.equal .code (.ofText code), .isNull .deletedAt]

def create (d : Draft) (actor : String) : Conversation Entry := do
  let created ← firstEntry (.ofStatement
    (.insert [(.code, .ofText d.code), (.text, .ofText d.text), (.createdAt, .now),
      (.createdBy, .ofText actor), (.updatedAt, .noTime), (.updatedBy, .text none),
      (.deletedAt, .noTime), (.deletedBy, .text none), (.uuid, .freshUuid)]) false)
  match created with
  | some e => return e
  | none => throw (.ofDatabase (.recordNotFound "Failed to find inserted item"))

def changedColumns (c : Changes) : List (Column × Value) :=
  (c.code.map fun s => (.code, .ofText s)).toList ++
    (c.text.map fun s => (.text, .ofText s)).toList

def update (id : Int64) (c : Changes) (actor : String) : Conversation Entry := do
  let e ← Failure.orNotFound (← findActive id)
  change e.id (changedColumns c ++ [(.updatedAt, .now), (.updatedBy, .ofText actor)])

def delete (id : Int64) (actor : String) : Conversation Unit := do
  let e ← Failure.orNotFound (← findActive id)
  let _ ← change e.id [(.deletedAt, .now), (.deletedBy, .ofText actor)]

def restore (id : Int64) (actor : String) : Conversation Entry := do
  match ← find [.equal .id (.ofInt id), .isNotNull .deletedAt] with
  | some e =>
    change e.id [(.updatedAt, .now), (.updatedBy, .ofText actor), (.deletedAt, .noTime),
      (.deletedBy, .text none)]
  | none => throw nothingToRestore

/-- Lookups and insertions are one statement; the other calls are a lookup and an update. -/
def store : Behaviour
  | .list f => list f
  | .findById id => findActive id
  | .findByCode code => findByCode code
  | .create d actor => create d actor
  | .update id c actor => update id c actor
  | .delete id actor => delete id actor
  | .restore id actor => restore id actor

end Catalog.Store.Mapped
