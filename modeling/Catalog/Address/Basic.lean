import Catalog.Address.Host

namespace Catalog.Address

/-- An address without controls and spaces at its ends, and without line breaks and tabs. -/
def clean (cs : List Char) : List Char :=
  let atEnd (c : Char) : Bool := c ≤ ' '
  ((cs.dropWhile atEnd).reverse.dropWhile atEnd).reverse.filter fun c =>
    c != '\t' && c != '\n' && c != '\r'

def isSchemeChar (c : Char) : Bool := c.isAlphanum || c == '+' || c == '-' || c == '.'

def scheme? : List Char → Option (String × List Char)
  | [] => none
  | c :: cs =>
    if c.isAlpha then
      match cs.dropWhile isSchemeChar with
      | ':' :: rest => some ((String.ofList (c :: cs.takeWhile isSchemeChar)).toLower, rest)
      | _ => none
    else none

/-- What an address leads to: a host that is always named, a file that may be on a host, or what the
scheme makes of it. -/
inductive Target where
  | network
  | file
  | other
  deriving DecidableEq, Repr

def Target.ofScheme (scheme : String) : Target :=
  if ["http", "https", "ws", "wss", "ftp"].contains scheme then .network
  else if scheme = "file" then .file
  else .other

def isSlash (c : Char) : Bool := c == '/' || c == '\\'

/-- Whether a character ends the part of an address that names a host. A backslash is a slash where the
scheme is a common one. -/
def Target.ends (t : Target) (c : Char) : Bool :=
  c == '/' || c == '?' || c == '#' || (c == '\\' && t != .other)

/-- The text before the first colon that is not in brackets, and the text after that colon. -/
def splitColon (inside : Bool) : List Char → List Char × Option (List Char)
  | [] => ([], none)
  | c :: cs =>
    if c = ':' ∧ ¬inside then ([], some cs)
    else
      let t := splitColon (c == '[' || (c != ']' && inside)) cs
      (c :: t.1, t.2)

/-- Whether a text starts with a number of 16 bits, or no number, and nothing else before a backslash. -/
def isNumber16 (cs : List Char) : Bool :=
  let digits := cs.takeWhile Char.isDigit
  (cs.drop digits.length).head?.all (· == '\\') &&
    digits.foldl (fun n c => 10 * n + (c.toNat - '0'.toNat)) 0 < 65536

/-- Whether a host is right, with the number after it. Only where a scheme allows it may the host be
empty, and then nothing must come with it. -/
def isPlace (t : Target) (hasUser : Bool) (cs : List Char) : Bool :=
  let (host, number?) := splitColon false cs
  number?.all isNumber16 &&
    match t with
    | .other => isOpaqueHost host && (!host.isEmpty || (!hasUser && number?.isNone))
    | _ => isNamedHost host

def splitUser (cs : List Char) : Option (List Char) × List Char :=
  let place := (cs.reverse.takeWhile (· != '@')).reverse
  if place.length < cs.length then (some (cs.take (cs.length - place.length - 1)), place)
  else (none, cs)

def isAuthority (t : Target) (cs : List Char) : Bool :=
  match splitUser (cs.takeWhile fun c => !t.ends c) with
  | (none, place) => isPlace t false place
  | (some [], []) => !cs.any t.ends && isPlace t false []
  | (some user, place) => isPlace t (user != [] && user != [':']) place

def isDrive : List Char → Bool
  | [c, mark] => c.isAlpha && (mark == ':' || mark == '|')
  | _ => false

def isFileHost (host : List Char) : Bool :=
  host.isEmpty || isDrive host || isNamedHost host

def Target.admits (t : Target) (cs : List Char) : Bool :=
  match t, cs with
  | .network, cs => isAuthority .network (cs.dropWhile isSlash)
  | .file, a :: b :: rest =>
    !(isSlash a && isSlash b) || isFileHost (rest.takeWhile fun c => !t.ends c)
  | .other, '/' :: '/' :: rest => isAuthority .other rest
  | _, _ => true

def schemeOf? (address : String) : Option String :=
  (scheme? (clean address.toList)).bind fun (scheme, rest) =>
    if (Target.ofScheme scheme).admits rest then some scheme else none

/-- Why no connection to an address is even tried. -/
def refusal? (address : String) : Option String :=
  match schemeOf? address with
  | none => some ("The connection string '" ++ address ++ "' cannot be parsed.")
  | some scheme =>
    if scheme = "postgres" ∨ scheme = "postgresql" then none
    else some ("The connection string '" ++ address ++ "' has no supporting driver.")

end Catalog.Address
