namespace Catalog

/-- A JSON document. A string without a text is one whose escapes name half of a surrogate pair:
its syntax is right, but it stands for no characters. A number keeps the digits it was written
with. -/
inductive Json where
  | null
  | bool (value : Bool)
  | num (literal : List Char)
  | str (text : Option String)
  | arr (items : List Json)
  | obj (members : List (Option String × Json))
  deriving Inhabited

namespace Json

def text (s : String) : Json := .str (some s)

def int (n : Int) : Json := .num (toString n).toList

def ofMembers (members : List (String × Json)) : Json :=
  .obj (members.map fun m => (some m.1, m.2))

def text? : Json → Option String
  | .str s => s
  | _ => none

end Json

end Catalog
