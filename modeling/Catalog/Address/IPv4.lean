import Catalog.Text.HexDigit
import Catalog.Text.Split

namespace Catalog.Address.IPv4

def ofDigits? (base : Nat) (cs : List Char) : Option Nat :=
  let next (n : Nat) (c : Char) : Option Nat :=
    (Text.hexDigit? c).bind fun d => if d < base then some (base * n + d) else none
  cs.foldlM next 0

/-- The value of a number: hexadecimal after `0x`, octal after another leading zero, else decimal. -/
def number? : List Char → Option Nat
  | [] => none
  | ['0'] => some 0
  | '0' :: 'x' :: cs => ofDigits? 16 cs
  | '0' :: 'X' :: cs => ofDigits? 16 cs
  | '0' :: cs => ofDigits? 8 cs
  | cs => ofDigits? 10 cs

/-- The parts between dots. A dot at the end is not counted. -/
def parts (cs : List Char) : List (List Char) :=
  let ps := Text.splitAt '.' cs
  if ps.getLast? = some [] then ps.dropLast else ps

def isMeant (host : List Char) : Bool :=
  (parts host).getLast?.any fun p => (!p.isEmpty && p.all Char.isDigit) || (number? p).isSome

def areBytes : List Nat → Bool
  | [] => false
  | [n] => n < 0x100000000
  | [m, n] => m < 256 && n < 0x1000000
  | [l, m, n] => l < 256 && m < 256 && n < 0x10000
  | [k, l, m, n] => k < 256 && l < 256 && m < 256 && n < 256
  | _ => false

def isAddress (host : List Char) : Bool := ((parts host).mapM number?).any areBytes

end Catalog.Address.IPv4
