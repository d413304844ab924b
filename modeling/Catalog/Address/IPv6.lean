import Catalog.Text.HexDigit
import Catalog.Text.Split

namespace Catalog.Address.IPv6

def isGroup (cs : List Char) : Bool :=
  !cs.isEmpty && cs.length ≤ 4 && cs.all fun c => (Text.hexDigit? c).isSome

def isByte (cs : List Char) : Bool :=
  !cs.isEmpty && cs.length ≤ 3 && cs.all Char.isDigit && (cs == ['0'] || cs.head? != some '0') &&
    cs.foldl (fun n c => 10 * n + (c.toNat - '0'.toNat)) 0 < 256

/-- Number of groups that a part between colons stands for, at the end of an address if `last` says so,
where it may have the form of four bytes. -/
def groups? (last : Bool) (cs : List Char) : Option Nat :=
  if isGroup cs then some 1
  else
    let parts := Text.splitAt '.' cs
    if last ∧ parts.length = 4 ∧ parts.all isByte then some 2 else none

def total? (last : Bool) : List (List Char) → Option Nat
  | [] => some 0
  | [p] => groups? last p
  | p :: ps => do return (← groups? false p) + (← total? last ps)

def side? (last : Bool) (cs : List Char) : Option Nat :=
  if cs.isEmpty then some 0 else total? last (Text.splitAt ':' cs)

def splitGap : List Char → Option (List Char × List Char)
  | ':' :: ':' :: cs => some ([], cs)
  | c :: cs => (splitGap cs).map fun p => (c :: p.1, p.2)
  | [] => none

/-- Whether a text is an address: eight groups, or fewer around a gap. -/
def isAddress (cs : List Char) : Bool :=
  match splitGap cs with
  | some (before, after) =>
    match side? false before, side? true after with
    | some m, some n => m + n ≤ 7
    | _, _ => false
  | none => side? true cs == some 8

end Catalog.Address.IPv6
