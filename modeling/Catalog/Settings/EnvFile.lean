import Catalog.Settings.EnvFile.Lines
import Catalog.Settings.EnvFile.Value
import Catalog.Settings.Environment

namespace Catalog.EnvFile

open Text (skipBlanks dropBlankEnd)

def isNameChar (c : Char) : Bool := c.isAlphanum || c == '_' || c == '.'

def name? (cs : List Char) : Option (List Char × List Char) :=
  match cs with
  | [] => none
  | c :: _ =>
    if c.isAlpha ∨ c = '_' then some (cs.takeWhile isNameChar, cs.dropWhile isNameChar) else none

def afterEqual? : List Char → Option (List Char)
  | '=' :: cs => some cs
  | _ => none

/-- The name that a line defines and what follows the equality sign. The word `export` may stand
before the name. -/
def target? (cs : List Char) : Option (List Char × List Char) := do
  let (name, cs) ← name? cs
  let cs := skipBlanks cs
  match afterEqual? cs with
  | some cs => return (name, cs)
  | none =>
    if name = "export".toList then
      let (name, cs) ← name? cs
      return (name, ← afterEqual? (skipBlanks cs))
    else none

def isNothing (cs : List Char) : Bool := cs.isEmpty || cs.head? == some '#'

/-- What a line says: nothing, or a name and its value. `none` if it is not a proper line. -/
def definition? (resolve : List Char → List Char) (cs : List Char) :
    Option (Option (List Char × List Char)) :=
  let cs := skipBlanks (dropBlankEnd cs)
  if isNothing cs then some none
  else do
    let (name, cs) ← target? cs
    let cs := skipBlanks cs
    if isNothing cs then return some (name, [])
    else
      let value ← ({} : Reading).value? resolve cs
      return some (name, value)

/-- The value that a reference to `name` stands for: that of the variable, else what an earlier line
says, else nothing. -/
def resolveIn (env : Environment) (defined : List (String × String)) (name : List Char) :
    List Char :=
  ((env.get? (.ofList name) <|> defined.lookup (.ofList name)).getD "").toList

/-- Sets the variables of the lines that are not set yet, up to the first line that is not proper.
`defined` holds what earlier lines say, the latest first. -/
def loadLines (env : Environment) (defined : List (String × String)) :
    List (Option (List Char)) → Environment
  | [] => env
  | none :: _ => env
  | some l :: ls =>
    match definition? (resolveIn env defined) l with
    | none => env
    | some none => loadLines env defined ls
    | some (some (name, value)) =>
      loadLines (env.setDefault (.ofList name) (.ofList value))
        ((.ofList name, .ofList value) :: defined) ls

def dropByteOrderMark : List Char → List Char
  | '\ufeff' :: cs => cs
  | cs => cs

/-- Sets the variables of a file that are not set yet. A value that holds a NUL is set like others
here; a real process stops at it, as none of its variables can have one. -/
def load (env : Environment) (content : String) : Environment :=
  loadLines env [] (logicalLines (dropByteOrderMark content.toList))

end Catalog.EnvFile
