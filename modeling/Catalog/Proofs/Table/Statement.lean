import Catalog.Decimal
import Catalog.Proofs.Sql.Arguments
import Catalog.Proofs.Table.Basic
import Catalog.Store.Basic

namespace Catalog

open Sql Store

def Entry.row (e : Entry) : Row where
  id := some e.id
  code := some e.code
  text := some e.text
  createdAt := some e.createdAt
  createdBy := some e.createdBy
  updatedAt := e.updatedAt
  updatedBy := e.updatedBy
  deletedAt := e.deletedAt
  deletedBy := e.deletedBy
  uuid := some e.uuid

@[simp] theorem Entry.entry_row (e : Entry) : e.row.entry = .ok e := rfl

namespace Sql

inductive Datum where
  | text (s : Option String)
  | integer (n : Option Int)
  | time (t : Option Instant)
  | uuid (u : Option Uuid)
  deriving DecidableEq

namespace Datum

def isNull : Datum → Bool
  | text s => s.isNone
  | integer n => n.isNone
  | time t => t.isNone
  | uuid u => u.isNone

def text? : Datum → Option String
  | text s => s
  | _ => none

end Datum

/-- What is made for a call: the time, an identifier, and the number that the table has for the next
entry. -/
structure Stamp where
  time : Instant
  uuid : Uuid
  id : Int64

def Stamp.first : Stamp where
  time := {
    date := { year := 2024, month := 3, day := 1 }
    hour := 9
    minute := 30
    second := 0
    nano := 0 }
  uuid := { digits := .replicate 32 (.last 15) }
  id := 1

variable (like : String → String → Bool) (s : Stamp)

def Value.datum : Value → Datum
  | .text t => .text t
  | .bigint n => .integer (n.map Int64.toInt)
  | .biguint n => .integer (n.map fun m => m.toNat)
  | .now => .time (some s.time)
  | .noTime => .time none
  | .freshUuid => .uuid (some s.uuid)

def Column.null : Column → Datum
  | .id => .integer none
  | .code | .text | .createdBy | .updatedBy | .deletedBy => .text none
  | .createdAt | .updatedAt | .deletedAt => .time none
  | .uuid => .uuid none

def wrongType (c : Column) : DatabaseError :=
  .query s!"column {c.name} is of another type"

def outOfRange : DatabaseError := .query "bigint out of range"

def notACount : DatabaseError := .query "LIMIT and OFFSET must be non-negative integers"

def nullViolation : DatabaseError := .query "null value violates not-null constraint"

def idTaken : DatabaseError := .query "duplicate key value violates unique constraint"

def unboundPlaceholder : DatabaseError := .query "there is no value for a placeholder"

end Sql

namespace Store.Row

def get (r : Row) : Column → Datum
  | .id => .integer (r.id.map Int64.toInt)
  | .code => .text r.code
  | .text => .text r.text
  | .createdAt => .time r.createdAt
  | .createdBy => .text r.createdBy
  | .updatedAt => .time r.updatedAt
  | .updatedBy => .text r.updatedBy
  | .deletedAt => .time r.deletedAt
  | .deletedBy => .text r.deletedBy
  | .uuid => .uuid r.uuid

def set (r : Row) : Column → Datum → Except DatabaseError Row
  | .id, .integer none => .ok { r with id := none }
  | .id, .integer (some n) =>
    match Decimal.toInt64? n with
    | some i => .ok { r with id := some i }
    | none => .error outOfRange
  | .code, .text x => .ok { r with code := x }
  | .text, .text x => .ok { r with text := x }
  | .createdAt, .time x => .ok { r with createdAt := x }
  | .createdBy, .text x => .ok { r with createdBy := x }
  | .updatedAt, .time x => .ok { r with updatedAt := x }
  | .updatedBy, .text x => .ok { r with updatedBy := x }
  | .deletedAt, .time x => .ok { r with deletedAt := x }
  | .deletedBy, .text x => .ok { r with deletedBy := x }
  | .uuid, .uuid x => .ok { r with uuid := x }
  | c, _ => .error (wrongType c)

/-- A row before its columns are inserted: the table gives the number, and the time where there is
none. -/
def blank (s : Stamp) : Row where
  id := some s.id
  code := none
  text := none
  createdAt := some s.time
  createdBy := none
  updatedAt := none
  updatedBy := none
  deletedAt := none
  deletedBy := none
  uuid := none

def stored (r : Row) : Except DatabaseError Entry :=
  match r.entry with
  | .ok e => .ok e
  | .error _ => .error nullViolation

end Store.Row

def Table.of (es : List Entry) : Except DatabaseError Table :=
  if h : (es.map Entry.id).Nodup then .ok ⟨es, h⟩ else .error idTaken

namespace Sql

variable (like : String → String → Bool) (s : Stamp)

def Pattern.text? : Pattern Value → Option String
  | .exactly v => (v.datum s).text?
  | .around v => (v.datum s).text?.map fun t => "%" ++ t ++ "%"

def matchesOne (r : Row) (p : Column × Pattern Value) : Bool :=
  match (r.get p.1).text?, p.2.text? s with
  | some t, some pattern => like pattern t
  | _, _ => false

/-- Whether a condition is true of a row. A comparison with null is not. -/
def Condition.meets (r : Row) : Condition Value → Bool
  | .equal c v => !(v.datum s).isNull && r.get c = v.datum s
  | .isNull c => (r.get c).isNull
  | .isNotNull c => !(r.get c).isNull
  | .anyLike alternatives => alternatives.any (matchesOne like s r)

def meetsAll (conditions : List (Condition Value)) (e : Entry) : Bool :=
  conditions.all (Condition.meets like s e.row)

def Setting.datum (r : Row) (c : Column) : Setting Value → Datum
  | .to v => v.datum s
  | .null => c.null
  | .toIfGiven v => if (v.datum s).isNull then r.get c else v.datum s

def rewritten (settings : List (Column × Setting Value)) (e : Entry) :
    Except DatabaseError Entry := do
  let r ← settings.foldlM (fun r p => r.set p.1 (p.2.datum s e.row p.1)) e.row
  r.stored

def Datum.count? : Datum → Except DatabaseError (Option Nat)
  | .integer none => .ok none
  | .integer (some n) => if 0 ≤ n then .ok (some n.toNat) else .error notACount
  | _ => .error notACount

def bound : Option Value → Except DatabaseError (Option Nat)
  | some v => (v.datum s).count?
  | none => .ok none

/-- At most `limit` elements after the first `offset`. -/
def window {α : Type} (limit offset : Option Nat) (xs : List α) : List α :=
  match limit with
  | some n => (xs.drop (offset.getD 0)).take n
  | none => xs.drop (offset.getD 0)

/-- What a statement gives back and the table that it leaves, unless it is refused. -/
def Statement.execute (t : Table) : Statement Value → Except DatabaseError (List Entry × Table)
  | .select q => do
    let limit ← bound s q.limit
    let offset ← bound s q.offset
    return (window limit offset (t.entries.filter (meetsAll like s q.conditions)), t)
  | .insert columns => do
    let r ← columns.foldlM (fun r p => r.set p.1 (p.2.datum s)) (Row.blank s)
    let e ← r.stored
    let u ← Table.of (t.entries ++ [e])
    return ([e], u)
  | .update settings conditions => do
    let met := meetsAll like s conditions
    let es ← t.entries.mapM fun e => if met e then rewritten s settings e else pure e
    let written ← (t.entries.filter met).mapM (rewritten s settings)
    let u ← Table.of es
    return (written, u)

end Sql

/-- The reply to a request, and the table after it. A statement that is refused leaves no trace. -/
def Table.answer (like : String → String → Bool) (s : Stamp) (r : Request) (t : Table) :
    Reply × Table :=
  match r.bound? with
  | none => (.error unboundPlaceholder, t)
  | some q =>
    match q.execute like s t with
    | .ok (es, u) => (.ok (es.map Entry.row), u)
    | .error e => (.error e, t)

end Catalog
