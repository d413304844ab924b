namespace Catalog.Sql

inductive Column where
  | id | code | text | createdAt | createdBy | updatedAt | updatedBy | deletedAt | deletedBy | uuid
  deriving DecidableEq, Repr

namespace Column

def name : Column → String
  | id => "id"
  | code => "code"
  | text => "example"
  | createdAt => "created_at"
  | createdBy => "created_by"
  | updatedAt => "updated_at"
  | updatedBy => "updated_by"
  | deletedAt => "deleted_at"
  | deletedBy => "deleted_by"
  | uuid => "uuid"

def all : List Column :=
  [id, code, text, createdAt, createdBy, updatedAt, updatedBy, deletedAt, deletedBy, uuid]

end Column

def tableName : String := "example"

/-- A value that a statement is sent with. The time of the call and an identifier made for it are
values of their own. -/
inductive Value where
  | text (s : Option String)
  | bigint (n : Option Int64)
  | biguint (n : Option UInt64)
  | now
  | noTime
  | freshUuid
  deriving DecidableEq, Repr

namespace Value

def ofText (s : String) : Value := .text (some s)

def ofInt (n : Int64) : Value := .bigint (some n)

def literalChar (c : Char) : List Char :=
  if c = '\\' then ['\\', '\\']
  else if c = '"' then ['\\', '"']
  else if c = '\'' then ['\\', '\'']
  else if c = '\x00' then ['\\', '0']
  else if c = '\x08' then ['\\', 'b']
  else if c = '\t' then ['\\', 't']
  else if c = '\x1a' then ['\\', 'z']
  else if c = '\n' then ['\\', 'n']
  else if c = '\r' then ['\\', 'r']
  else [c]

/-- A text as a literal, which says so if it holds escapes. -/
def literalText (s : String) : String :=
  let body := s.toList.flatMap literalChar
  .ofList ((if body.contains '\\' then ['E'] else []) ++ '\'' :: body ++ ['\''])

def literal : Value → String
  | text (some s) => literalText s
  | bigint (some n) => toString n.toInt
  | biguint (some n) => toString n.toNat
  | text none | bigint none | biguint none | noTime => "NULL"
  | now => "CURRENT_TIMESTAMP"
  | freshUuid => "gen_random_uuid()"

end Value

end Catalog.Sql
