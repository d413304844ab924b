import Catalog.Service
import Catalog.Settings.Backend

namespace Catalog.CommandLine

inductive MigrateAction where
  | up
  | down
  | status
  | fresh
  deriving DecidableEq, Repr

inductive Command where
  | migrate (action : MigrateAction)
  | entries (call : Service.Call)
  | sql (f : Filter)
  deriving DecidableEq

structure Invocation where
  verbose : Bool
  backend : Option Backend
  command : Command
  deriving DecidableEq

inductive Key where
  | verbose
  | backend
  | help
  | version
  | search
  | limit
  | offset
  | code
  | text
  | id
  deriving DecidableEq, Repr

namespace Key

def long : Key → String
  | verbose => "verbose"
  | backend => "backend"
  | help => "help"
  | version => "version"
  | search => "search"
  | limit => "limit"
  | offset => "offset"
  | code => "code"
  | text => "example"
  | id => "id"

def short? : Key → Option Char
  | verbose => some 'v'
  | backend => some 'b'
  | help => some 'h'
  | version => some 'V'
  | search => some 's'
  | limit => some 'l'
  | offset => some 'o'
  | code | text | id => none

def takesValue : Key → Bool
  | verbose | help | version => false
  | _ => true

end Key

/-- Why a command line is not carried out as it stands. Help and version are asked for by the user,
or shown in place of a command line with nothing in it. -/
inductive UsageError where
  | unknownArgument (given : String)
  | unknownCommand (given : String)
  | invalidValue (k : Key)
  | malformedValue (k : Key)
  | needlessValue (k : Key)
  | repeated (k : Key)
  | missingArgument (k : Key)
  | missingCommand
  | nothingGiven
  | help
  | version
  deriving DecidableEq, Repr

namespace UsageError

def exitCode : UsageError → Nat
  | help | version => 0
  | _ => 2

def message : UsageError → String
  | unknownArgument given => s!"unexpected argument '{given}' found"
  | unknownCommand given => s!"unrecognized subcommand '{given}'"
  | invalidValue k | malformedValue k => s!"invalid value for '{k.long}'"
  | needlessValue k => s!"'{k.long}' takes no value"
  | repeated k => s!"'{k.long}' cannot be used multiple times"
  | missingArgument k => s!"'{k.long}' was not provided"
  | missingCommand | nothingGiven => "a subcommand is required"
  | help => "Usage: example-service [OPTIONS] <COMMAND>"
  | version => "example-service 0.1.0"

end UsageError

inductive Value where
  | on
  | text (s : String)
  | backend (b : Backend)
  | id (n : Int64)
  deriving DecidableEq, Repr

abbrev Values := List (Key × Value)

namespace Values

def has (vs : Values) (k : Key) : Bool := vs.any fun v => v.1 == k

def text? (vs : Values) (k : Key) : Option String :=
  vs.findSome? fun v => if v.1 = k then match v.2 with | .text s => some s | _ => none else none

def backend? (vs : Values) : Option Backend :=
  vs.findSome? fun v => match v.2 with | .backend b => some b | _ => none

def id? (vs : Values) : Option Int64 :=
  vs.findSome? fun v => match v.2 with | .id n => some n | _ => none

end Values

/-- A word that names a command, and what may follow it. -/
inductive Scope where
  | group (name : String) (commands : List Scope)
  | leaf (name : String) (options slots : List Key) (build : Values → Except UsageError Command)

namespace Scope

def name : Scope → String
  | group n _ | leaf n _ _ _ => n

def commands : Scope → List Scope
  | group _ cs => cs
  | leaf .. => []

def options : Scope → List Key
  | group .. => []
  | leaf _ os _ _ => os

def slots : Scope → List Key
  | group .. => []
  | leaf _ _ ss _ => ss

def build? : Scope → Option (Values → Except UsageError Command)
  | group .. => none
  | leaf _ _ _ b => some b

end Scope

def given {α : Type} (k : Key) : Option α → Except UsageError α
  | some a => .ok a
  | none => .error (.missingArgument k)

def filterKeys : List Key := [.search, .limit, .offset]

def filterOf (vs : Values) : Filter :=
  { search := vs.text? .search, limit := vs.text? .limit, offset := vs.text? .offset }

def migrateScope (name : String) (a : MigrateAction) : Scope :=
  .leaf name [] [] fun _ => .ok (.migrate a)

def idScope (name : String) (call : Int64 → Service.Call) : Scope :=
  .leaf name [] [.id] fun vs => do return .entries (call (← given .id vs.id?))

def root : Scope :=
  .group "example-service" [
    .group "migrate" [migrateScope "up" .up, migrateScope "down" .down,
      migrateScope "status" .status, migrateScope "fresh" .fresh],
    .group "examples" [
      .leaf "list" filterKeys [] fun vs => .ok (.entries (.list (filterOf vs))),
      idScope "get" .get,
      .leaf "create" [.code, .text] [] fun vs => do
        return .entries (.create ⟨← given .code (vs.text? .code), ← given .text (vs.text? .text)⟩),
      .leaf "update" [.code, .text] [.id] fun vs => do
        return .entries (.update (← given .id vs.id?) ⟨vs.text? .code, vs.text? .text⟩),
      idScope "delete" .delete,
      idScope "restore" .restore],
    .leaf "sql" filterKeys [] fun vs => .ok (.sql (filterOf vs))]

end Catalog.CommandLine
