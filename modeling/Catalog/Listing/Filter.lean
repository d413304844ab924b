namespace Catalog

/-- What a listing may be narrowed by, as the texts that a caller gives. -/
structure Filter where
  search : Option String := none
  limit : Option String := none
  offset : Option String := none
  deriving DecidableEq, Repr

namespace Filter

inductive Field where
  | search
  | limit
  | offset
  deriving DecidableEq, Repr

namespace Field

def name : Field → String
  | search => "search"
  | limit => "limit"
  | offset => "offset"

def all : List Field := [search, limit, offset]

end Field

/-- A count that stands for none at all: no text, or a plain zero. -/
def isNoCount (s : String) : Bool := s == "" || s == "0"

def value (f : Filter) : Field → Option String
  | .search => f.search.filter (· != "")
  | .limit => f.limit.filter fun s => !isNoCount s
  | .offset => f.offset.filter fun s => !isNoCount s

def present (f : Filter) : List (Field × String) :=
  Field.all.filterMap fun field => (f.value field).map fun s => (field, s)

def arguments (f : Filter) : List String :=
  f.present.map Prod.snd

/-- The number of a field's placeholder, counted from one, or zero if it has none. -/
def position (f : Filter) (field : Field) : Nat :=
  match (f.present.map Prod.fst).idxOf? field with
  | some i => i + 1
  | none => 0

end Filter

end Catalog
