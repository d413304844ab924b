import Catalog.Text.Alphanumeric

namespace Catalog.EnvFile

inductive Quote where
  | none
  | strong
  | weak
  deriving DecidableEq

/-- A reference by what has been read of its name, which stands bare after the sign or in braces. -/
inductive Reference where
  | bare (name : List Char)
  | braced (name : List Char)

structure Reading where
  quote : Quote := .none
  escaped : Bool := false
  ended : Bool := false
  reference : Option Reference := none

def escaped? (c : Char) : Option Char :=
  if c = '\\' ∨ c = '\'' ∨ c = '"' ∨ c = '$' ∨ c = ' ' then some c
  else if c = 'n' then some '\n'
  else none

section

variable (resolve : List Char → List Char)

/-- What one more character of a reference gives, and where the reading stands after it. The character
after a bare name stands for itself, unless it starts another reference. -/
def Reading.refer (r : Reading) (c : Char) : Reference → List Char × Reading
  | .bare name =>
    if Text.isAlphanumeric c then ([], { r with reference := some (.bare (name ++ [c])) })
    else if c = '\x7b' ∧ name = [] then ([], { r with reference := some (.braced []) })
    else if c = '$' then (resolve name, { r with reference := some (.bare []) })
    else (resolve name ++ [c], { r with reference := none })
  | .braced name =>
    if c = '\x7d' then (resolve name, { r with reference := none })
    else ([], { r with reference := some (.braced (name ++ [c])) })

def Reading.step? (r : Reading) (c : Char) : Option (List Char × Reading) :=
  if r.ended then if c = ' ' ∨ c = '\t' then some ([], r) else none
  else if r.escaped then (escaped? c).map fun e => ([e], { r with escaped := false })
  else if r.quote = .strong then
    some (if c = '\'' then ([], { r with quote := .none }) else ([c], r))
  else
    match r.reference with
    | some reference => some (r.refer resolve c reference)
    | none =>
      if c = '$' then some ([], { r with reference := some (.bare []) })
      else if c = '\\' then some ([], { r with escaped := true })
      else if r.quote = .weak then
        some (if c = '"' then ([], { r with quote := .none }) else ([c], r))
      else if c = '\'' then some ([], { r with quote := .strong })
      else if c = '"' then some ([], { r with quote := .weak })
      else if c = ' ' ∨ c = '\t' then some ([], { r with ended := true })
      else some ([c], r)

def Reading.finish? (r : Reading) : Option (List Char) :=
  if r.quote ≠ .none then none
  else
    match r.reference with
    | some (.braced _) => none
    | some (.bare name) => some (resolve name)
    | none => some []

/-- The value written by the rest of a line. After a blank that ends it, only a comment may follow. -/
def Reading.value? (r : Reading) : List Char → Option (List Char)
  | [] => r.finish? resolve
  | c :: cs =>
    if r.ended ∧ c = '#' then r.finish? resolve
    else (r.step? resolve c).bind fun s => (s.2.value? cs).map (s.1 ++ ·)

end

end Catalog.EnvFile
