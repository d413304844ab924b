import Catalog.Migration.Basic
import Mathlib.Data.List.Sort

namespace Catalog.Migration

structure Index where
  name : String
  table : String
  column : String
  deriving DecidableEq

structure Version where
  name : String
  appliedAt : Int64

def Version.row (v : Version) : VersionRow := ⟨some v.name, some v.appliedAt⟩

/-- The tables and indexes that there are, and the rows of the table of versions. -/
structure Database where
  tables : List Table
  indexes : List Index
  versions : List Version

namespace Database

variable (db : Database)

def empty : Database := ⟨[], [], []⟩

def table? (name : String) : Option Table := db.tables.find? fun t => t.name == name

def hasTable (name : String) : Bool := (db.table? name).isSome

def isTaken (name : String) : Bool := db.hasTable name || db.indexes.any fun i => i.name == name

def records (version : String) : Bool := db.versions.any fun v => v.name == version

def rows : List VersionRow :=
  (db.versions.insertionSort fun v w => v.name ≤ w.name).map Version.row

def drop (name : String) : Database where
  tables := db.tables.filter fun t => t.name != name
  indexes := db.indexes.filter fun i => i.table != name
  versions := if name = versionTable.name then [] else db.versions

end Database

def undefinedTable (name : String) : DatabaseError :=
  .query ("relation \"" ++ name ++ "\" does not exist")

def undefinedColumn (name : String) : DatabaseError :=
  .query ("column \"" ++ name ++ "\" does not exist")

def duplicateName (name : String) : DatabaseError :=
  .query ("relation \"" ++ name ++ "\" already exists")

def duplicateVersion : DatabaseError :=
  .query "duplicate key value violates unique constraint"

/-- What a statement comes to and the database that it leaves, unless it is refused. -/
def Statement.execute (now : Int64) (db : Database) :
    Statement → Except DatabaseError (Effect × Database)
  | createTable t =>
    .ok (⟨[], 0⟩, if db.isTaken t.name then db else { db with tables := db.tables ++ [t] })
  | createIndex name table column =>
    match db.table? table with
    | none => .error (undefinedTable table)
    | some t =>
      if !t.columns.any fun c => c.name == column then .error (undefinedColumn column)
      else if db.isTaken name then .error (duplicateName name)
      else .ok (⟨[], 0⟩, { db with indexes := db.indexes ++ [⟨name, table, column⟩] })
  | dropTable name =>
    if db.hasTable name then .ok (⟨[], 0⟩, db.drop name) else .error (undefinedTable name)
  | readVersions | listVersions =>
    if db.hasTable versionTable.name then .ok (⟨db.rows, 0⟩, db)
    else .error (undefinedTable versionTable.name)
  | record v =>
    if !db.hasTable versionTable.name then .error (undefinedTable versionTable.name)
    else if db.records v then .error duplicateVersion
    else .ok (⟨[⟨some v, none⟩], 1⟩, { db with versions := db.versions ++ [⟨v, now⟩] })
  | erase v =>
    if db.hasTable versionTable.name then
      .ok (⟨[], db.versions.countP fun w => w.name == v⟩,
        { db with versions := db.versions.filter fun w => w.name != v })
    else .error (undefinedTable versionTable.name)

/-- Where a transaction stands: there is none, it has led to a database that nobody else sees yet, or
a statement of it has failed. -/
inductive Transaction where
  | none
  | underway (db : Database)
  | failed

structure Connection where
  db : Database
  transaction : Transaction

namespace Connection

def idle (db : Database) : Connection := ⟨db, .none⟩

def execute (now : Int64) (s : Statement) (c : Connection) :
    Except DatabaseError Effect × Connection :=
  match c.transaction with
  | .none =>
    match s.execute now c.db with
    | .ok (effect, db) => (.ok effect, idle db)
    | .error e => (.error e, c)
  | .underway db =>
    match s.execute now db with
    | .ok (effect, db) => (.ok effect, { c with transaction := .underway db })
    | .error e => (.error e, { c with transaction := .failed })
  | .failed => (.error (.query "current transaction is aborted"), c)

def refuse (c : Connection) : Connection :=
  match c.transaction with
  | .none => c
  | .underway _ | .failed => { c with transaction := .failed }

def keep (c : Connection) : Connection :=
  match c.transaction with
  | .underway db => idle db
  | .none | .failed => idle c.db

end Connection

/-- For each step in turn, why it fails although the database would carry it out, if it does. -/
abbrev Faults := List (Option DatabaseError)

/-- Takes a step over a connection. What a transaction has led to is lost with a rollback, or if its
end fails. -/
def Connection.answer (now : Int64) : (s : Step) → Connection × Faults → s.Reply × Connection × Faults
  | .begin, (c, faults) =>
    match faults.headD none with
    | none => (.ok (), { c with transaction := .underway c.db }, faults.tail)
    | some e => (.error e, c, faults.tail)
  | .commit, (c, faults) =>
    match faults.headD none with
    | none => (.ok (), c.keep, faults.tail)
    | some e => (.error e, idle c.db, faults.tail)
  | .rollback, (c, faults) => ((), idle c.db, faults)
  | .statement s, (c, faults) =>
    match faults.headD none with
    | none => ((c.execute now s).1, (c.execute now s).2, faults.tail)
    | some e => (.error e, c.refuse, faults.tail)

def Course.via {α : Type} (m : Course α) (now : Int64) (faults : Faults) (c : Connection) :
    Session.Trace Step (Connection × Faults) (Except DatabaseError α) :=
  m.run.run (Connection.answer now) (c, faults)

/-- Takes a step where nothing fails but what the database refuses, and where there is no need for
transactions. -/
def Database.answer (now : Int64) : (s : Step) → Database → s.Reply × Database
  | .begin, db | .commit, db => (.ok (), db)
  | .rollback, db => ((), db)
  | .statement s, db =>
    match s.execute now db with
    | .ok (effect, db) => (.ok effect, db)
    | .error e => (.error e, db)

def Course.on {α : Type} (m : Course α) (now : Int64) (db : Database) :
    Session.Trace Step Database (Except DatabaseError α) :=
  m.run.run (Database.answer now) db

end Catalog.Migration
