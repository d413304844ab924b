import Catalog.Sql.Dialect

namespace Catalog.Migration

open Sql (Dialect)

inductive ColumnType where
  | bigserial
  | bigint
  | varchar (length : Option Nat)
  | text
  | timestamp
  | uuid

def ColumnType.sql : ColumnType → String
  | .bigserial => "bigserial"
  | .bigint => "bigint"
  | .varchar none => "varchar"
  | .varchar (some n) => "varchar(" ++ toString n ++ ")"
  | .text => "text"
  | .timestamp => "timestamp with time zone"
  | .uuid => "uuid"

inductive Constraint where
  | primaryKey
  | unique
  | defaultNow
  deriving DecidableEq

def Constraint.sql : Constraint → String
  | .primaryKey => "PRIMARY KEY"
  | .unique => "UNIQUE"
  | .defaultNow => "DEFAULT CURRENT_TIMESTAMP"

structure ColumnDefinition where
  name : String
  type : ColumnType
  mayBeNull : Bool := false
  constraints : List Constraint := []

def ColumnDefinition.sql (c : ColumnDefinition) : String :=
  " ".intercalate ([Dialect.quoted.name c.name, c.type.sql,
    if c.mayBeNull then "NULL" else "NOT NULL"] ++ c.constraints.map Constraint.sql)

structure Table where
  name : String
  columns : List ColumnDefinition

def versionTable : Table where
  name := "seaql_migrations"
  columns := [
    { name := "version", type := .varchar none, constraints := [.primaryKey] },
    { name := "applied_at", type := .bigint }]

def entryColumn : Sql.Column → ColumnDefinition
  | .id => { name := Sql.Column.id.name, type := .bigserial, constraints := [.primaryKey] }
  | .code => { name := Sql.Column.code.name, type := .varchar (some 50) }
  | .text => { name := Sql.Column.text.name, type := .text }
  | .createdAt =>
    { name := Sql.Column.createdAt.name, type := .timestamp, constraints := [.defaultNow] }
  | .createdBy => { name := Sql.Column.createdBy.name, type := .varchar none }
  | .updatedAt => { name := Sql.Column.updatedAt.name, type := .timestamp, mayBeNull := true }
  | .updatedBy => { name := Sql.Column.updatedBy.name, type := .varchar none, mayBeNull := true }
  | .deletedAt => { name := Sql.Column.deletedAt.name, type := .timestamp, mayBeNull := true }
  | .deletedBy => { name := Sql.Column.deletedBy.name, type := .varchar none, mayBeNull := true }
  | .uuid => { name := Sql.Column.uuid.name, type := .uuid, constraints := [.unique] }

def entryTable : Table where
  name := Sql.tableName
  columns := Sql.Column.all.map entryColumn

inductive Statement where
  | createTable (t : Table)
  | createIndex (name table column : String)
  | dropTable (table : String)
  | readVersions
  | listVersions
  | record (version : String)
  | erase (version : String)

/-- A value that such a statement is sent with: a version, or the number of seconds to the time of
the call. -/
inductive Value where
  | version (v : String)
  | now
  deriving DecidableEq, Repr

namespace Statement

def values : Statement → List Value
  | record v => [.version v, .now]
  | erase v => [.version v]
  | _ => []

def quoted (n : String) : String := Dialect.quoted.name n

def versions : String := quoted versionTable.name

/-- The text of a statement. The two readings of the record differ in the form of the names. -/
def sql : Statement → String
  | createTable t =>
    "CREATE TABLE IF NOT EXISTS " ++ quoted t.name ++ " ( " ++
      ", ".intercalate (t.columns.map ColumnDefinition.sql) ++ " )"
  | createIndex name table column =>
    "CREATE INDEX " ++ quoted name ++ " ON " ++ quoted table ++ " (" ++ quoted column ++ ")"
  | dropTable table => "DROP TABLE " ++ quoted table
  | readVersions =>
    "SELECT \"version\", \"applied_at\" FROM " ++ versions ++ " ORDER BY \"version\" ASC"
  | listVersions =>
    "SELECT " ++ versions ++ ".\"version\", " ++ versions ++ ".\"applied_at\" FROM " ++ versions ++
      " ORDER BY " ++ versions ++ ".\"version\" ASC"
  | record _ =>
    "INSERT INTO " ++ versions ++ " (\"version\", \"applied_at\") VALUES (" ++
      Sql.placeholder 1 ++ ", " ++ Sql.placeholder 2 ++ ") RETURNING \"version\""
  | erase _ => "DELETE FROM " ++ versions ++ " WHERE \"version\" = " ++ Sql.placeholder 1

end Statement

end Catalog.Migration
