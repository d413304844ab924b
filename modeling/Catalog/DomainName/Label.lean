import Catalog.DomainName.Folding
import Catalog.DomainName.Punycode
import Catalog.Text.Canonical
import Catalog.Text.Direction
import Catalog.Text.Joining

namespace Catalog.DomainName

abbrev Label := List Char

namespace Label

/-- A label that has other characters than those of ASCII, in its usual form, is no longer than this. -/
def maxLength : Nat := 1000

/-- A label in its ASCII form is no longer than this after the mark. -/
def maxEncodedLength : Nat := 2000

def encodedMark : List Char := "xn--".toList

/-- Whether a joiner may stand between the characters before it, last one first, and those after it. It
may after a virama, and the one that forbids a joint may where there would be one. -/
def joinerFits (joiner : Char) (before after : List Char) : Bool :=
  match before with
  | [] => false
  | c :: _ =>
    Text.isVirama c ||
      (joiner == '\u200c' &&
        (before.dropWhile Text.isTransparent).head?.any Text.joinsAfter &&
        (after.dropWhile Text.isTransparent).head?.any Text.joinsBefore)

def joinersFit (before : List Char) : List Char → Bool
  | [] => true
  | c :: cs => (!isJoiner c || joinerFits c before cs) && joinersFit (c :: before) cs

def isProper (label : Label) : Bool :=
  !label.head?.any Text.isMark && joinersFit [] label

/-- A label in its usual form. An ASCII form is right only for what could be written without it, and has
been folded. -/
def decoded? (label : Label) : Option Label :=
  if encodedMark.isPrefixOf label then
    let code := label.drop encodedMark.length
    if code = [] ∨ code.getLast? = some '-' ∨ maxEncodedLength < code.length then none
    else
      (Punycode.decode? code).filter fun text =>
        text.all isFolded && Text.canonical text == text && !encodedMark.isPrefixOf text
  else if label.all (·.toNat < 128) ∨ label.length ≤ maxLength then some label
  else none

def agrees (main : Text.Direction) : Text.Direction → Bool
  | .neutral | .mark | .european => true
  | .arabic => main == .right
  | d => d == main

def canEnd (main : Text.Direction) : Text.Direction → Bool
  | .european => true
  | .arabic => main == .right
  | d => d == main

/-- Whether a label reads the same among labels of the other direction. -/
def hasOneDirection (label : Label) : Bool :=
  let ds := label.map Text.direction
  match ds.head? with
  | none => true
  | some main =>
    (main == .left || main == .right) && ds.all (agrees main) &&
      (ds.reverse.dropWhile (· == .mark)).head?.any (canEnd main) &&
      !(main == .right && ds.contains .european && ds.contains .arabic)

end Label

end Catalog.DomainName
