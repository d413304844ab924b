import Catalog.Text.HexDigit

namespace Catalog

/-- A universally unique identifier: 32 hexadecimal digits. -/
structure Uuid where
  digits : List (Fin 16)
  length_digits : digits.length = 32 := by decide
  deriving DecidableEq, Repr

namespace Uuid

def ofDigits? (digits : List (Fin 16)) : Option Uuid :=
  if h : digits.length = 32 then some ⟨digits, h⟩ else none

def digit? (c : Char) : Option (Fin 16) := (Text.hexDigit? c).map (.ofNat 16)

/-- The characters with hyphens between groups of 8, 4, 4, 4 and 12. -/
def hyphenate (cs : List Char) : List Char :=
  cs.take 8 ++ '-' :: (cs.drop 8).take 4 ++ '-' :: (cs.drop 12).take 4 ++ '-' ::
    (cs.drop 16).take 4 ++ '-' :: cs.drop 20

/-- The characters without the hyphens of `hyphenate`, which have to be there. -/
def unhyphenate? (cs : List Char) : Option (List Char) :=
  if cs.length = 36 ∧ cs[8]? = some '-' ∧ cs[13]? = some '-' ∧ cs[18]? = some '-' ∧
      cs[23]? = some '-' then
    some (cs.take 8 ++ (cs.drop 9).take 4 ++ (cs.drop 14).take 4 ++ (cs.drop 19).take 4 ++
      cs.drop 24)
  else none

def chars (u : Uuid) : List Char :=
  hyphenate (u.digits.map fun d => Nat.digitChar d.val)

/-- The lower-case digits in hyphenated groups. -/
def text (u : Uuid) : String := .ofList u.chars

def urn : List Char := "urn:uuid:".toList

/-- The digits of an identifier in one of its spellings: bare, hyphenated, hyphenated in braces, or
hyphenated after `urn:uuid:`. -/
def bare? (cs : List Char) : Option (List Char) :=
  if cs.length = 32 then some cs
  else if cs.length = 38 ∧ cs.head? = some '\x7b' ∧ cs.getLast? = some '\x7d' then
    unhyphenate? (cs.tail.dropLast)
  else if cs.length = 45 ∧ (cs.take 9).map Char.toLower = urn then unhyphenate? (cs.drop 9)
  else unhyphenate? cs

/-- The identifier that a text spells, in digits of either case. -/
def parse? (s : String) : Option Uuid := do
  let cs ← bare? s.toList
  ofDigits? (← cs.mapM digit?)

end Uuid

end Catalog
