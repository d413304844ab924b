import Catalog.Sql.Statement

namespace Catalog.Sql

variable {α : Type}

/-- A way of writing statements: in lower case with bare names, or in capitals with quoted names. -/
inductive Dialect where
  | plain
  | quoted
  deriving DecidableEq, Repr

namespace Dialect

def word (d : Dialect) (w : String) : String :=
  match d with
  | plain => w
  | quoted => w.toUpper

def name (d : Dialect) (n : String) : String :=
  match d with
  | plain => n
  | quoted => "\"" ++ n ++ "\""

def table (d : Dialect) : String := d.name tableName

def column (d : Dialect) (c : Column) : String := d.name c.name

def ownColumn (d : Dialect) (c : Column) : String :=
  match d with
  | plain => d.column c
  | quoted => d.table ++ "." ++ d.column c

def separator : Dialect → String
  | plain => ","
  | quoted => ", "

def alternative (d : Dialect) (s : String) : String :=
  match d with
  | plain => s
  | quoted => "(" ++ s ++ ")"

end Dialect

def placeholder (n : Nat) : String := "$" ++ toString n

section Text

variable (d : Dialect) (arg : α → String)

def Pattern.text : Pattern α → String
  | .exactly a => arg a
  | .around a => "'%' || " ++ arg a ++ " || '%'"

def likeText (p : Column × Pattern α) : String :=
  d.alternative (d.column p.1 ++ " " ++ d.word "ilike" ++ " " ++ p.2.text arg)

def Condition.text : Condition α → String
  | .equal c a => d.ownColumn c ++ " = " ++ arg a
  | .isNull c => d.ownColumn c ++ " " ++ d.word "is null"
  | .isNotNull c => d.ownColumn c ++ " " ++ d.word "is not null"
  | .anyLike alternatives =>
    "(" ++ (" " ++ d.word "or" ++ " ").intercalate (alternatives.map (likeText d arg)) ++ ")"

def whereText (conditions : List (Condition α)) : String :=
  " " ++ d.word "where" ++ " " ++
    (" " ++ d.word "and" ++ " ").intercalate (conditions.map (Condition.text d arg))

def Setting.text (c : Column) : Setting α → String
  | .to a => arg a
  | .null => d.word "null"
  | .toIfGiven a => d.word "coalesce" ++ "(" ++ arg a ++ ", " ++ d.column c ++ ")"

def settingText (p : Column × Setting α) : String :=
  d.column p.1 ++ " = " ++ p.2.text d arg p.1

def boundText (w : String) : Option α → String
  | some a => " " ++ d.word w ++ " " ++ arg a
  | none => ""

def returningText : String :=
  " " ++ d.word "returning" ++ " " ++ d.separator.intercalate (Column.all.map d.column)

def Select.text (s : Select α) : String :=
  d.word "select" ++ " " ++ d.separator.intercalate (Column.all.map d.ownColumn) ++ " " ++
    d.word "from" ++ " " ++ d.table ++ whereText d arg s.conditions ++
    boundText d arg "limit" s.limit ++ boundText d arg "offset" s.offset

def Statement.text : Statement α → String
  | .select s => s.text d arg
  | .insert columns =>
    d.word "insert into" ++ " " ++ d.table ++ " (" ++
      d.separator.intercalate (columns.map fun p => d.column p.1) ++ ") " ++ d.word "values" ++
      " (" ++ d.separator.intercalate (columns.map fun p => arg p.2) ++ ")" ++ returningText d
  | .update settings conditions =>
    d.word "update" ++ " " ++ d.table ++ " " ++ d.word "set" ++ " " ++
      ", ".intercalate (settings.map (settingText d arg)) ++ whereText d arg conditions ++
      returningText d

end Text

end Catalog.Sql
