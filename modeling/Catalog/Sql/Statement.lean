import Catalog.Sql.Value

namespace Catalog.Sql

variable {α β : Type}

/-- A pattern to compare a column with: the argument, or any text around the argument. -/
inductive Pattern (α : Type) where
  | exactly (a : α)
  | around (a : α)

inductive Condition (α : Type) where
  | equal (c : Column) (a : α)
  | isNull (c : Column)
  | isNotNull (c : Column)
  | anyLike (alternatives : List (Column × Pattern α))

/-- What a column is set to: the argument, null, or the argument unless it is null, when the column
stays as it is. -/
inductive Setting (α : Type) where
  | to (a : α)
  | null
  | toIfGiven (a : α)

structure Select (α : Type) where
  conditions : List (Condition α)
  limit : Option α := none
  offset : Option α := none

/-- A statement on the table of entries. Those that write hand back the rows they have written. -/
inductive Statement (α : Type) where
  | select (s : Select α)
  | insert (columns : List (Column × α))
  | update (settings : List (Column × Setting α)) (conditions : List (Condition α))

section Traverse

variable {m : Type → Type} [Monad m]

def Pattern.traverse (f : α → m β) : Pattern α → m (Pattern β)
  | .exactly a => return .exactly (← f a)
  | .around a => return .around (← f a)

def Condition.traverse (f : α → m β) : Condition α → m (Condition β)
  | .equal c a => return .equal c (← f a)
  | .isNull c => return .isNull c
  | .isNotNull c => return .isNotNull c
  | .anyLike alternatives =>
    return .anyLike (← alternatives.mapM fun p => return (p.1, ← p.2.traverse f))

def Setting.traverse (f : α → m β) : Setting α → m (Setting β)
  | .to a => return .to (← f a)
  | .null => return .null
  | .toIfGiven a => return .toIfGiven (← f a)

def Select.traverse (f : α → m β) (s : Select α) : m (Select β) := do
  let conditions ← s.conditions.mapM (Condition.traverse f)
  let limit ← s.limit.mapM f
  let offset ← s.offset.mapM f
  return { conditions, limit, offset }

def Statement.traverse (f : α → m β) : Statement α → m (Statement β)
  | .select s => return .select (← s.traverse f)
  | .insert columns => return .insert (← columns.mapM fun p => return (p.1, ← f p.2))
  | .update settings conditions => do
    let settings ← settings.mapM fun p => return (p.1, ← p.2.traverse f)
    let conditions ← conditions.mapM (Condition.traverse f)
    return .update settings conditions

end Traverse

def enlist (a : α) : StateM (List α) Nat :=
  fun as => (as.length + 1, as ++ [a])

/-- A statement with its arguments numbered in the order in which they are written, and the
arguments in that order. -/
def Statement.numbered (s : Statement α) : Statement Nat × List α :=
  (s.traverse enlist).run []

end Catalog.Sql
