import Catalog.DomainName.Folding.Letters
import Catalog.DomainName.Folding.Texts
import Catalog.Text.Unprintable

namespace Catalog.DomainName

def ignoredRanges : List (Nat × Nat) := [
  (0xad, 0xad), (0x34f, 0x34f), (0x115f, 0x1160), (0x17b4, 0x17b5), (0x180b, 0x180f),
  (0x200b, 0x200b), (0x2060, 0x2064), (0x206a, 0x206f), (0x3164, 0x3164), (0xfe00, 0xfe0f),
  (0xfeff, 0xfeff), (0xffa0, 0xffa0), (0x1bca0, 0x1bca3), (0x1d173, 0x1d17a), (0xe0100, 0xe01ef)]

/-- Ranges of the printing characters that cannot be written. Most of them would bring in dots, slashes
or an order of strokes. -/
def refusedRanges : List (Nat × Nat) := [
  (0x2024, 0x2026), (0x2488, 0x249b), (0x2ff0, 0x2fff), (0x31ef, 0x31ef), (0x33c2, 0x33c2),
  (0x33c7, 0x33c7), (0x33d8, 0x33d8), (0xfe12, 0xfe12), (0xfe19, 0xfe19), (0xfe30, 0xfe30),
  (0xfe52, 0xfe52), (0xfffc, 0xfffd), (0x1f100, 0x1f100)]

/-- The two characters that forbid and ask for a joint of the letters around them. -/
def isJoiner (c : Char) : Bool := c == '\u200c' || c == '\u200d'

/-- What stands for a code point in a table whose rows hold what stands for successive code points. -/
def cell? {α β : Type} (cells : β → List α) (rows : List (Nat × β)) (n : Nat) : Option α :=
  rows.findSome? fun row => if row.1 ≤ n then (cells row.2)[n - row.1]? else none

def replacement? (c : Char) : Option (List Char) :=
  (cell? String.toList foldedLetters c.toNat).map (fun d => [d]) <|>
    (cell? id foldedTexts c.toNat).map String.toList

def fold? (c : Char) : Option (List Char) :=
  if c.toNat < 128 then some [c.toLower]
  else if Text.inRanges ignoredRanges c then some []
  else if isJoiner c then some [c]
  else
    match replacement? c with
    | some cs => some cs
    | none =>
      if Text.isUnprintable c || Text.inRanges refusedRanges c then none else some [c]

def isFolded (c : Char) : Bool := fold? c == some [c]

end Catalog.DomainName
