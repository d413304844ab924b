import Catalog.CommandLine.Basic
import Catalog.Decimal

namespace Catalog.CommandLine

def Key.read (k : Key) (s : String) : Except UsageError Value :=
  match k with
  | .backend =>
    match Backend.ofOption? true s with
    | some b => .ok (.backend b)
    | none => .error (.invalidValue k)
  | .id =>
    match Decimal.int64? s with
    | some n => .ok (.id n)
    | none => .error (.malformedValue k)
  | _ => .ok (.text s)

/-- How far the words after a command have been read. An argument is settled only when the next one
comes: till then it is pending, an option without a text still waiting for it. -/
structure Level where
  scope : Scope
  isRoot : Bool
  slots : List Key
  values : Values := []
  pending : Option (Key × Option String) := none
  onlySlots : Bool := false

namespace Level

def ofScope (s : Scope) (isRoot : Bool) : Level := { scope := s, isRoot, slots := s.slots }

def keys (l : Level) : List Key :=
  [.verbose, .backend, .help] ++ (if l.isRoot then [.version] else []) ++ l.scope.options

def put (l : Level) (k : Key) (v : Value) : Level :=
  { l with values := l.values ++ [(k, v)] }

def settle (l : Level) (k : Key) (s : String) : Except UsageError Level :=
  if l.values.has k then .error (.repeated k) else (k.read s).map (l.put k)

def resolve (l : Level) : Except UsageError Level :=
  match l.pending with
  | none => .ok l
  | some (k, none) => .error (.invalidValue k)
  | some (k, some s) => { l with pending := none }.settle k s

def takeFlag (l : Level) (k : Key) : Except UsageError Level := do
  let l ← l.resolve
  match k with
  | .help => .error .help
  | .version => .error .version
  | _ => if l.values.has k then .error (.repeated k) else .ok (l.put k .on)

def takeOption (l : Level) (k : Key) (attached : Option String) : Except UsageError Level := do
  let l ← l.resolve
  match attached with
  | some s => l.settle k s
  | none => .ok { l with pending := some (k, none) }

def takeLong (l : Level) (name : String) (attached : Option String) : Except UsageError Level :=
  match l.keys.find? fun k => k.long == name with
  | none => .error (.unknownArgument name)
  | some k =>
    if k.takesValue then l.takeOption k attached
    else if attached.isSome then .error (.needlessValue k)
    else l.takeFlag k

def attachedValue : List Char → Option String
  | [] => none
  | '=' :: cs => some (.ofList cs)
  | cs => some (.ofList cs)

/-- Takes a word of letters after one dash: flags, and last an option that may have its value after
it. -/
def takeShorts (l : Level) : List Char → Except UsageError Level
  | [] => .ok l
  | c :: cs =>
    match l.keys.find? fun k => k.short? == some c with
    | none => .error (.unknownArgument (.singleton c))
    | some k =>
      if k.takesValue then l.takeOption k (attachedValue cs)
      else (l.takeFlag k).bind fun l => l.takeShorts cs

def isWaiting (l : Level) : Bool :=
  match l.pending with
  | some (_, none) => true
  | _ => false

def isCommand (l : Level) (word : String) : Bool :=
  l.scope.commands.any (·.name == word) || (word == "help" && !l.scope.commands.isEmpty)

def takeSlot (l : Level) (word : String) : Except UsageError Level :=
  match l.slots with
  | k :: ks => do
    let l ← l.resolve
    .ok { l with slots := ks, pending := some (k, some word) }
  | [] =>
    if l.scope.commands.isEmpty ∨ (l.onlySlots ∧ l.isCommand word) then
      .error (.unknownArgument word)
    else .error (.unknownCommand word)

def takeWord (l : Level) (word : String) : Except UsageError Level :=
  if l.onlySlots then l.takeSlot word
  else
    match word.toList with
    | ['-', '-'] => .ok { l with onlySlots := true }
    | '-' :: '-' :: cs =>
      let name := cs.takeWhile (· != '=')
      l.takeLong (.ofList name) <| match cs.dropWhile (· != '=') with
        | [] => none
        | _ :: v => some (.ofList v)
    | '-' :: c :: cs => l.takeShorts (c :: cs)
    | _ =>
      match l.pending with
      | some (k, none) => .ok { l with pending := some (k, some word) }
      | _ => l.takeSlot word

/-- Ends the words after a command. The backend may also come from a variable, whose text has to be
right even where an option goes before it. -/
def finish (l : Level) (named? : Option String) (isLast : Bool) : Except UsageError Values := do
  let l ← l.resolve
  if !l.values.has .backend then
    if let some s := named? then
      let _ ← Key.backend.read s
  if isLast && !l.scope.commands.isEmpty then
    .error (if l.values.isEmpty ∧ named? = none then .nothingGiven else .missingCommand)
  else .ok l.values

end Level

/-- How far a command line has been read: the command that is being read, inside of others, or words
that ask for help on one of some commands. -/
inductive State where
  | reading (outer : List Level) (l : Level)
  | helping (commands : List Scope)

namespace State

def findCommand? (commands : List Scope) (word : String) : Option Scope :=
  commands.find? (·.name == word)

def step : State → String → Except UsageError State
  | reading outer l, word =>
    if l.onlySlots || l.isWaiting || !l.isCommand word then (l.takeWord word).map (reading outer)
    else
      match findCommand? l.scope.commands word with
      | some s => .ok (reading (l :: outer) (.ofScope s false))
      | none => .ok (helping l.scope.commands)
  | helping commands, word =>
    match findCommand? commands word with
    | some s => .ok (helping s.commands)
    | none =>
      if word = "help" ∧ !commands.isEmpty then .ok (helping []) else .error (.unknownCommand word)

def finishOuter (named? : Option String) : List Level → Except UsageError (List Values)
  | [] => .ok []
  | l :: ls => do
    let vs ← l.finish named? false
    return vs :: (← finishOuter named? ls)

/-- The invocation from the values of all levels, from the inside: options of all commands may stand
at any of them, and the innermost counts. -/
def invocation (named? : Option String) (command : Command) (levels : List Values) :
    Invocation :=
  { verbose := levels.any fun vs => vs.has .verbose
    backend := levels.findSome? Values.backend? <|> named?.bind (Backend.ofOption? true)
    command }

def finish (named? : Option String) : State → Except UsageError Invocation
  | helping _ => .error .help
  | reading outer l => do
    let vs ← l.finish named? true
    match l.scope.build? with
    | none => .error .missingCommand
    | some build =>
      let command ← build vs
      let around ← finishOuter named? outer
      return invocation named? command (vs :: around)

end State

/-- Reads the words of a command line, `named?` being what a variable says about the backend. -/
def parse (named? : Option String) (words : List String) : Except UsageError Invocation := do
  let state ← words.foldlM State.step (.reading [] (.ofScope root true))
  state.finish named?

end Catalog.CommandLine
