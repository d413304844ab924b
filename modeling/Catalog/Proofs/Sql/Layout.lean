import Catalog.Proofs.Decimal
import Catalog.Proofs.Sql.Words

namespace Catalog.Sql

def past (k : String) (ws : List String) : List String := (ws.dropWhile (· ≠ k)).drop 1

def upTo (k : String) (ws : List String) : List String := ws.takeWhile (· ≠ k)

def equations : List String → List (String × String)
  | name :: sign :: value :: rest =>
    if sign = "=" then (name, value) :: equations rest else equations (sign :: value :: rest)
  | _ => []

/-- The words of a statement by what they are there for: the columns that are written and what is
written into them, what is compared, how many rows are wanted, and the columns that are handed
back. -/
structure Layout where
  columns : List String
  values : List String
  compared : List (String × String)
  limit : List String
  returned : List String

def Layout.ofWords (ws : List String) : Layout :=
  let settings := equations ((upTo "where" (past "set" ws)).filter (· ≠ "coalesce"))
  { columns := upTo "values" ((past "into" ws).drop 1) ++ settings.map Prod.fst
    values := upTo "returning" (past "values" ws) ++ settings.map Prod.snd
    compared := equations (upTo "returning" (past "where" ws))
    limit := (past "limit" ws).take 1
    returned := past "returning" ws }

def number? (w : String) : Option Nat :=
  match w.toList with
  | '$' :: ds => Decimal.nat? ds
  | _ => none

def Layout.numbers (l : Layout) : List Nat :=
  (l.values ++ l.compared.map Prod.snd ++ l.limit).filterMap number?

def Column.ofName? (name : String) : Option Column :=
  all.find? fun c => c.name = name

def Column.noValue? : Column → Option Value
  | .updatedAt | .deletedAt => some .noTime
  | .updatedBy | .deletedBy => some (.text none)
  | _ => none

/-- What a statement says of columns: those that are written, with their values, those that are
compared, how many rows are wanted, and what is handed back. -/
structure Content where
  written : List (Column × Value)
  compared : List (Column × Value)
  limit : List Value
  returned : List Column

namespace Request

variable (q : Request)

def value? (w : String) : Option Value := (number? w).bind (valueAt q.values)

def cell? (p : String × String) : Option (Column × Value) := do
  let c ← Column.ofName? p.1
  let v ← if p.2 = "null" then c.noValue? else q.value? p.2
  return (c, v)

def read? (l : Layout) : Option Content := do
  return {
    written := ← (l.columns.zip l.values).mapM q.cell?
    compared := ← l.compared.mapM q.cell?
    limit := ← l.limit.mapM q.value?
    returned := ← l.returned.mapM Column.ofName? }

def layout : Layout := .ofWords (words q.sql)

/-- Whether the placeholders of a request are numbered as its values are, each of them stands for
something, and all in all they say the given things of columns. -/
structure Says (r : Content) : Prop where
  numbered : placeholders q.sql = List.range' 1 q.values.length
  placed : q.layout.numbers = placeholders q.sql
  listed : q.layout.columns.length = q.layout.values.length
  read : q.read? q.layout = some r

variable {q}

theorem layout_eq : q.layout = .ofWords q.statement.words := by
  rw [layout, sql, Statement.words_text]

end Request

end Catalog.Sql
