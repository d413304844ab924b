import Catalog.Calendar.Instant
import Catalog.Uuid

namespace Catalog

/-- A record of the catalogue, with who made it, changed it last and deleted it, and when. -/
structure Entry where
  id : Int64
  code : String
  text : String
  createdAt : Instant
  createdBy : String
  updatedAt : Option Instant
  updatedBy : Option String
  deletedAt : Option Instant
  deletedBy : Option String
  uuid : Uuid
  deriving DecidableEq

def Entry.isActive (e : Entry) : Bool :=
  e.deletedAt.isNone

structure Draft where
  code : String
  text : String
  deriving DecidableEq, Repr

/-- New values for the fields of an entry; absent ones stay as they are. -/
structure Changes where
  code : Option String
  text : Option String
  deriving DecidableEq, Repr

def Changes.isEmpty (c : Changes) : Bool :=
  c.code.isNone && c.text.isNone

inductive Rule where
  | codeLength
  | textLength
  deriving DecidableEq, Repr

namespace Rule

def field : Rule → String
  | codeLength => "code"
  | textLength => "example"

def message : Rule → String
  | codeLength => "Code must be between 1 and 50 characters"
  | textLength => "Example is required"

def allowsCode (code : String) : Bool := 1 ≤ code.length && code.length ≤ 50

def allowsText (text : String) : Bool := 1 ≤ text.length

end Rule

def Changes.broken (c : Changes) : List Rule :=
  (if c.code.all Rule.allowsCode then [] else [.codeLength]) ++
    (if c.text.all Rule.allowsText then [] else [.textLength])

def Draft.broken (d : Draft) : List Rule :=
  Changes.broken ⟨some d.code, some d.text⟩

def Rule.summary (rules : List Rule) : String :=
  ", ".intercalate ((rules.map message).mergeSort fun a b => a ≤ b)

end Catalog
