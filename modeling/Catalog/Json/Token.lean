import Catalog.Json.Basic
import Catalog.Text.HexDigit

namespace Catalog.Json

open Text (hexDigit?)

inductive Token where
  | openArr | closeArr | openObj | closeObj | comma | colon
  | null
  | bool (value : Bool)
  | num (literal : List Char)
  | str (text : Option String)
  deriving DecidableEq, Repr

def isSpace (c : Char) : Bool := c == ' ' || c == '\n' || c == '\t' || c == '\r'

def digits? : List Char → Option (List Char)
  | [] => none
  | c :: cs => if c.isDigit then some (cs.dropWhile Char.isDigit) else none

def integerPart? : List Char → Option (List Char)
  | '0' :: cs => some cs
  | cs => digits? cs

def fractionPart? : List Char → Option (List Char)
  | '.' :: cs => digits? cs
  | cs => some cs

def exponentPart? : List Char → Option (List Char)
  | 'e' :: '+' :: cs | 'e' :: '-' :: cs | 'E' :: '+' :: cs | 'E' :: '-' :: cs => digits? cs
  | 'e' :: cs | 'E' :: cs => digits? cs
  | cs => some cs

def unsignedPart (cs : List Char) : List Char :=
  match cs with
  | '-' :: r => r
  | _ => cs

def isNumber (cs : List Char) : Bool :=
  (((integerPart? (unsignedPart cs)).bind fractionPart?).bind exponentPart?) == some []

def inNumber (c : Char) : Bool :=
  c.isDigit || c == '-' || c == '+' || c == '.' || c == 'e' || c == 'E'

def isHighSurrogate (n : Nat) : Bool := 0xd800 ≤ n && n ≤ 0xdbff

def isLowSurrogate (n : Nat) : Bool := 0xdc00 ≤ n && n ≤ 0xdfff

/-- The characters that code points stand for when the halves of surrogate pairs are put together;
none if a half is left over. -/
def joinSurrogates : List Nat → Option (List Char)
  | [] => some []
  | [n] => if isHighSurrogate n || isLowSurrogate n then none else some [Char.ofNat n]
  | n :: m :: ns =>
    if isHighSurrogate n then
      if isLowSurrogate m then
        (joinSurrogates ns).map (Char.ofNat (0x10000 + (n - 0xd800) * 0x400 + (m - 0xdc00)) :: ·)
      else none
    else if isLowSurrogate n then none
    else (joinSurrogates (m :: ns)).map (Char.ofNat n :: ·)

def escaped? (c : Char) : Option Char :=
  match c with
  | '"' => some '"'
  | '\\' => some '\\'
  | '/' => some '/'
  | 'b' => some '\x08'
  | 'f' => some '\x0c'
  | 'n' => some '\n'
  | 'r' => some '\r'
  | 't' => some '\t'
  | _ => none

/-- Where a scan stands: between tokens, or inside one whose parts so far are held in reverse. -/
inductive Mode where
  | between
  | word (letters : List Char)
  | number (chars : List Char)
  | string (points : List Nat)
  | escape (points : List Nat)
  | hex (points : List Nat) (value : Nat) (left : Nat)

def ofWord? (letters : List Char) : Option Token :=
  if letters = ['n', 'u', 'l', 'l'] then some .null
  else if letters = ['t', 'r', 'u', 'e'] then some (.bool true)
  else if letters = ['f', 'a', 'l', 's', 'e'] then some (.bool false)
  else none

def ofNumber? (chars : List Char) : Option Token :=
  if isNumber chars then some (.num chars) else none

def Mode.close? : Mode → Option (List Token)
  | .between => some []
  | .word letters => (ofWord? letters.reverse).map fun t => [t]
  | .number chars => (ofNumber? chars.reverse).map fun t => [t]
  | .string _ | .escape _ | .hex .. => none

def begin? (c : Char) : Option (List Token × Mode) :=
  if isSpace c then some ([], .between)
  else if c = '[' then some ([.openArr], .between)
  else if c = ']' then some ([.closeArr], .between)
  else if c = '\x7b' then some ([.openObj], .between)
  else if c = '\x7d' then some ([.closeObj], .between)
  else if c = ',' then some ([.comma], .between)
  else if c = ':' then some ([.colon], .between)
  else if c = '"' then some ([], .string [])
  else if c = '-' ∨ c.isDigit then some ([], .number [c])
  else if 'a' ≤ c ∧ c ≤ 'z' then some ([], .word [c])
  else none

def Mode.thenBegin? (m : Mode) (c : Char) : Option (List Token × Mode) :=
  m.close?.bind fun ts => (begin? c).map fun r => (ts ++ r.1, r.2)

/-- The tokens that one character completes, and where the scan stands after it. -/
def Mode.step? (m : Mode) (c : Char) : Option (List Token × Mode) :=
  match m with
  | .between => begin? c
  | .word letters =>
    if 'a' ≤ c ∧ c ≤ 'z' then some ([], .word (c :: letters)) else m.thenBegin? c
  | .number chars =>
    if inNumber c then some ([], .number (c :: chars)) else m.thenBegin? c
  | .string points =>
    if c = '"' then some ([.str ((joinSurrogates points.reverse).map .ofList)], .between)
    else if c = '\\' then some ([], .escape points)
    else if c < ' ' then none
    else some ([], .string (c.toNat :: points))
  | .escape points =>
    if c = 'u' then some ([], .hex points 0 4)
    else (escaped? c).map fun e => ([], .string (e.toNat :: points))
  | .hex points value left =>
    (hexDigit? c).map fun d =>
      let value := 16 * value + d
      ([], if left ≤ 1 then .string (value :: points) else .hex points value (left - 1))

def Mode.scan? : Mode → List Char → Option (List Token)
  | m, [] => m.close?
  | m, c :: cs => (m.step? c).bind fun r => (r.2.scan? cs).map (r.1 ++ ·)

def scan? (cs : List Char) : Option (List Token) :=
  Mode.between.scan? cs

end Catalog.Json
