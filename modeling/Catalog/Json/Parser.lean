import Catalog.Json.Token

namespace Catalog.Json

abbrev Member := Option String × Json

/-- A container that waits for a value, with what came before it in reverse. -/
inductive Frame where
  | arr (items : List Json)
  | obj (members : List Member) (key : Option String)

inductive Phase where
  | value
  | itemOrEnd
  | key (members : List Member)
  | keyOrEnd
  | colon (members : List Member) (key : Option String)
  | after (value : Json)

/-- A document read up to some token: the containers it is inside of, innermost first. -/
abbrev Progress := List Frame × Phase

def start? (stack : List Frame) : Token → Option Progress
  | .null => some (stack, .after .null)
  | .bool b => some (stack, .after (.bool b))
  | .num n => some (stack, .after (.num n))
  | .str s => some (stack, .after (.str s))
  | .openArr => some (stack, .itemOrEnd)
  | .openObj => some (stack, .keyOrEnd)
  | _ => none

def advance? : Progress → Token → Option Progress
  | (stack, .value), t => start? stack t
  | (stack, .itemOrEnd), .closeArr => some (stack, .after (.arr []))
  | (stack, .itemOrEnd), t => start? (.arr [] :: stack) t
  | (stack, .keyOrEnd), .closeObj => some (stack, .after (.obj []))
  | (stack, .keyOrEnd), .str k => some (stack, .colon [] k)
  | (stack, .key ms), .str k => some (stack, .colon ms k)
  | (stack, .colon ms k), .colon => some (.obj ms k :: stack, .value)
  | (.arr items :: stack, .after v), .comma => some (.arr (v :: items) :: stack, .value)
  | (.arr items :: stack, .after v), .closeArr => some (stack, .after (.arr (v :: items).reverse))
  | (.obj ms k :: stack, .after v), .comma => some (stack, .key ((k, v) :: ms))
  | (.obj ms k :: stack, .after v), .closeObj => some (stack, .after (.obj ((k, v) :: ms).reverse))
  | _, _ => none

def advanceAll? : Progress → List Token → Option Progress
  | p, [] => some p
  | p, t :: ts => (advance? p t).bind fun q => advanceAll? q ts

def whole? : Progress → Option Json
  | ([], .after v) => some v
  | _ => none

def ofTokens? (ts : List Token) : Option Json :=
  (advanceAll? ([], .value) ts).bind whole?

def parse? (s : String) : Option Json :=
  (scan? s.toList).bind ofTokens?

end Catalog.Json
