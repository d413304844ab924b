import Catalog.Text.Blank

namespace Catalog.EnvFile

open Text (isBlank skipBlanks)

def physicalLines : List Char → List (List Char)
  | [] => []
  | '\n' :: cs => ['\n'] :: physicalLines cs
  | c :: cs =>
    match physicalLines cs with
    | [] => [[c]]
    | l :: ls => (c :: l) :: ls

/-- Whether a line could end at some place in a text, or why it could not. -/
inductive Openness where
  | complete
  | escape
  | strong
  | strongEscape
  | weak
  | weakEscape
  | space
  deriving DecidableEq

def Openness.unquoted (c : Char) : Openness :=
  if c = '\\' then .escape
  else if c = '"' then .weak
  else if c = '\'' then .strong
  else .complete

def Openness.after (c : Char) : Openness → Openness
  | .complete => if isBlank c ∧ c ≠ '\n' ∧ c ≠ '\r' then .space else unquoted c
  | .space => unquoted c
  | .escape => .complete
  | .strong => if c = '\\' then .strongEscape else if c = '\'' then .complete else .strong
  | .strongEscape => .strong
  | .weak => if c = '\\' then .weakEscape else if c = '"' then .complete else .weak
  | .weakEscape => .weak

/-- What comes before the comment in a line, or how the line stands at its end if it has none. -/
def beforeComment (o : Openness) : List Char → List Char ⊕ Openness
  | [] => .inr o
  | c :: cs =>
    if o = .space ∧ c = '#' then .inl []
    else (beforeComment (o.after c) cs).map (c :: ·) id

def dropNewline (cs : List Char) : List Char :=
  match cs.reverse with
  | '\n' :: '\r' :: r | '\n' :: r => r.reverse
  | _ => cs

def startsComment (cs : List Char) : Bool :=
  (skipBlanks cs).head? == some '#'

/-- Lines with those put together that belong together, `before` being what the first of them goes on
from. `none` stands for a line that is not complete at the end of the file. -/
def joinLines (before : List Char) (o : Openness) : List (List Char) → List (Option (List Char))
  | [] => if o = .complete then [] else [none]
  | l :: ls =>
    if startsComment (before ++ l) then some [] :: joinLines [] .complete ls
    else
      match beforeComment o l with
      | .inl kept => some (before ++ kept) :: joinLines [] .complete ls
      | .inr .complete => some (dropNewline (before ++ l)) :: joinLines [] .complete ls
      | .inr o => joinLines (before ++ l) o ls

def logicalLines (cs : List Char) : List (Option (List Char)) :=
  joinLines [] .complete (physicalLines cs)

end Catalog.EnvFile
