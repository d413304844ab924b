import Catalog.Store.Basic

namespace Catalog.Service

inductive Call where
  | list (f : Filter)
  | get (id : Int64)
  | create (d : Draft)
  | update (id : Int64) (c : Changes)
  | delete (id : Int64)
  | restore (id : Int64)
  deriving DecidableEq

def Call.Answer : Call → Type
  | list _ => List Entry
  | get _ | create _ | update .. | restore _ => Entry
  | delete _ => Unit

abbrev Course := ExceptT Failure (Session Store.Call fun c => Except Failure c.Answer)

def ask (c : Store.Call) : Course c.Answer :=
  ExceptT.mk (.question c)

def codeTaken (code : String) : Failure :=
  .conflict s!"Example with code {code}"

def invalid (rules : List Rule) : Failure :=
  .validation (Rule.summary rules)

def nothingToUpdate : Failure := .validation "Nothing to update"

def checkRules (rules : List Rule) : Course Unit :=
  if rules.isEmpty then pure () else throw (invalid rules)

/-- Goes on if no entry has the code, other than the one with the id `except?`. -/
def checkCode (code : String) (except? : Option Int64) : Course Unit := do
  let found : Option Entry ← ask (.findByCode code)
  match found with
  | some e => if some e.id = except? then pure () else throw (codeTaken code)
  | none => pure ()

def list (f : Filter) : Course (List Entry) := ask (.list f)

def get (id : Int64) : Course Entry := do
  let found : Option Entry ← ask (.findById id)
  Failure.orNotFound found

def create (actor : String) (d : Draft) : Course Entry := do
  checkRules d.broken
  checkCode d.code none
  ask (.create d actor)

def update (actor : String) (id : Int64) (c : Changes) : Course Entry := do
  if c.isEmpty then throw nothingToUpdate
  checkRules c.broken
  if let some code := c.code then checkCode code (some id)
  ask (.update id c actor)

def delete (actor : String) (id : Int64) : Course Unit := ask (.delete id actor)

def restore (actor : String) (id : Int64) : Course Entry := ask (.restore id actor)

/-- What a call does with the store, for an actor who is put on record for what it writes. -/
def perform (actor : String) : (c : Call) → Course c.Answer
  | .list f => list f
  | .get id => get id
  | .create d => create actor d
  | .update id c => update actor id c
  | .delete id => delete actor id
  | .restore id => restore actor id

end Catalog.Service
