import Catalog.Failure
import Catalog.Migration.Schema
import Catalog.Session

namespace Catalog.Migration

structure Revision where
  name : String
  up : List Statement
  down : List Statement

def createEntries : Revision where
  name := "m20240101_000001_create_example_table"
  up := [.createTable entryTable,
    .createIndex "idx_example_deleted_at" entryTable.name Sql.Column.deletedAt.name]
  down := [.dropTable entryTable.name]

def all : List Revision := [createEntries]

structure VersionRow where
  version : Option String
  appliedAt : Option Int64

/-- The version in a row. The first null is an error. -/
def VersionRow.decode (r : VersionRow) : Except DatabaseError String :=
  match r.version, r.appliedAt with
  | none, _ => .error (.nullColumn "version")
  | some _, none => .error (.nullColumn "applied_at")
  | some v, some _ => .ok v

/-- What a statement has come to: the rows that it gives and the number of those it wrote. -/
structure Effect where
  rows : List VersionRow
  written : Nat

/-- What is sent to the database: a statement, or a bound of a transaction. -/
inductive Step where
  | begin
  | commit
  | rollback
  | statement (s : Statement)

/-- All steps may fail but a rollback, for the answer of which nobody waits. -/
def Step.Reply : Step → Type
  | begin | commit => Except DatabaseError Unit
  | rollback => Unit
  | statement _ => Except DatabaseError Effect

abbrev Course := ExceptT DatabaseError (Session Step Step.Reply)

def start : Course Unit :=
  ExceptT.mk (.ask Step.begin fun (r : Except DatabaseError Unit) => .done r)

def commit : Course Unit :=
  ExceptT.mk (.ask Step.commit fun (r : Except DatabaseError Unit) => .done r)

def rollBack : Course Unit :=
  ExceptT.mk (.ask Step.rollback fun _ => .done (.ok ()))

def execute (s : Statement) : Course Effect :=
  ExceptT.mk (.ask (Step.statement s) fun (r : Except DatabaseError Effect) => .done r)

/-- A course that does not fail, but gives its error as a result. -/
def attempt {α : Type} (course : Course α) : Course (Except DatabaseError α) :=
  ExceptT.mk (course.run.bind fun r => .done (.ok r))

/-- Runs a course between the bounds of a transaction, which an error rolls back. -/
def inTransaction {α : Type} (course : Course α) : Course α := do
  start
  match ← attempt (do let a ← course; commit; return a) with
  | .ok a => return a
  | .error e => rollBack; throw e

def install : Course Unit := do
  let _ ← execute (.createTable versionTable)

/-- Each of the four parts of a run that need the table of versions makes sure of it. -/
def installs : Course Unit := do
  install
  install
  install
  install

def recorded (s : Statement) : Course (List String) := do
  let effect ← execute s
  ExceptT.mk (.done (effect.rows.mapM VersionRow.decode))

def isKnown (version : String) : Bool :=
  all.any fun m => m.name == version

def checkedVersions : Course (List String) := do
  let versions ← recorded .readVersions
  match versions.filter fun v => !isKnown v with
  | [] => return versions
  | unknown => throw (.unknownMigrations unknown.eraseDups)

def executeAll (statements : List Statement) : Course Unit :=
  statements.forM fun s => do let _ ← execute s

def openRecord : Course (List String) := do
  installs
  checkedVersions

def apply (m : Revision) : Course Unit := do
  executeAll m.up
  let effect ← execute (.record m.name)
  if effect.written = 0 then throw .notInserted

def revert (m : Revision) : Course Unit := do
  executeAll m.down
  let _ ← execute (.erase m.name)

def applyPending : Course Unit := do
  let versions ← openRecord
  (all.filter fun m => !versions.contains m.name).forM apply

def revertLast : Course Unit := do
  let versions ← openRecord
  ((all.filter fun m => versions.contains m.name).reverse.take 1).forM revert

def up : Course Unit := inTransaction applyPending

def down : Course Unit := inTransaction revertLast

def status : Course (List (String × Bool)) := do
  let versions ← recorded .listVersions
  return all.map fun m => (m.name, versions.contains m.name)

/-- The end of a run that cannot go on: there is no way here to list the tables that are to be
dropped. -/
structure Halt where

def fresh : Course Halt := do
  start
  let result ← attempt install
  rollBack
  match result with
  | .ok () => return {}
  | .error e => throw e

abbrev Script := List (Except DatabaseError Effect)

/-- Answers a statement with the next reply, and with one written row and none to read when there
is none left. The bounds of a transaction do not fail. -/
def Script.answer : (s : Step) → Script → s.Reply × Script
  | .begin, script | .commit, script => (.ok (), script)
  | .rollback, script => ((), script)
  | .statement _, [] => (.ok ⟨[], 1⟩, [])
  | .statement _, r :: rs => (r, rs)

def perform {α : Type} (course : Course α) (script : Script) :
    Session.Trace Step Script (Except DatabaseError α) :=
  course.run.run Script.answer script

/-- The failure of the migrate command. Nothing is told about a statement that failed, other than in
the log. -/
def failure (e : DatabaseError) : Failure :=
  match Failure.ofDatabase e with
  | .database e => .internal e.message
  | f => f

end Catalog.Migration
