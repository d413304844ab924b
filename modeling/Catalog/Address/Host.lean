import Catalog.Address.IPv4
import Catalog.Address.IPv6
import Catalog.DomainName.Basic

namespace Catalog.Address

/-- Characters that may not stand in a host that is not looked up as a name. -/
def isForbidden (c : Char) : Bool :=
  "\x00\t\n\r #/:<>?@[\\]^|".toList.contains c

def hexDigit? (b : UInt8) : Option UInt8 :=
  if 0x30 ≤ b ∧ b ≤ 0x39 then some (b - 0x30)
  else if 0x41 ≤ b ∧ b ≤ 0x46 then some (b - 0x41 + 10)
  else if 0x61 ≤ b ∧ b ≤ 0x66 then some (b - 0x61 + 10)
  else none

/-- Bytes after each percent sign with two hexadecimal digits has been replaced by the byte that it stands
for. Other percent signs stand for themselves. -/
def percentDecoded : List UInt8 → List UInt8
  | [] => []
  | b :: x :: y :: rest =>
    if b = 0x25 then
      match hexDigit? x, hexDigit? y with
      | some high, some low => (16 * high + low) :: percentDecoded rest
      | _, _ => b :: percentDecoded (x :: y :: rest)
    else b :: percentDecoded (x :: y :: rest)
  | b :: rest => b :: percentDecoded rest

def unescaped? (host : List Char) : Option (List Char) :=
  (String.fromUTF8? ⟨(percentDecoded (String.ofList host).toUTF8.toList).toArray⟩).map String.toList

inductive Bracketed where
  | none
  | unclosed
  | closed (inside : List Char)

def bracketed : List Char → Bracketed
  | '[' :: rest => if rest.getLast? = some ']' then .closed rest.dropLast else .unclosed
  | _ => .none

/-- Whether a name is right: a name of a host, or a number if its last part is one. -/
def isName (text : List Char) : Bool :=
  match DomainName.labels? text with
  | none => false
  | some labels =>
    let name := ['.'].intercalate labels
    !name.isEmpty && (!IPv4.isMeant name || IPv4.isAddress name)

def isNamedHost (host : List Char) : Bool :=
  match bracketed host with
  | .none => (unescaped? host).any isName
  | .unclosed => false
  | .closed inside => IPv6.isAddress inside

def isOpaqueHost (host : List Char) : Bool :=
  match bracketed host with
  | .none => !host.any isForbidden
  | .unclosed => false
  | .closed inside => IPv6.isAddress inside

end Catalog.Address
