namespace Catalog.DomainName.Punycode

def digit? (c : Char) : Option Nat :=
  if 'a' ≤ c ∧ c ≤ 'z' then some (c.toNat - 'a'.toNat)
  else if '0' ≤ c ∧ c ≤ '9' then some (c.toNat - '0'.toNat + 26)
  else none

/-- The least digit that does not end a number at a position, counted in steps of 36. -/
def threshold (bias position : Nat) : Nat :=
  if position ≤ bias then 1 else if bias + 26 ≤ position then 26 else position - bias

def expectedPosition (distance : Nat) : Nat :=
  if 455 < distance then 36 + expectedPosition (distance / 35)
  else 36 * distance / (distance + 38)
termination_by distance
decreasing_by omega

def nextBias (first : Bool) (distance length : Nat) : Nat :=
  let halved := if first then distance / 700 else distance / 2
  expectedPosition (halved + halved / length)

def bound : Nat := 0x100000000

/-- Where the reading stands: the text, the code point and the place of the last character put in, and
the number that is being read. -/
structure Reading where
  text : List Char
  codePoint : Nat := 128
  place : Nat := 0
  bias : Nat := 72
  value : Nat := 0
  weight : Nat := 1
  position : Nat := 36

def Reading.put? (r : Reading) : Option Reading :=
  let length := r.text.length + 1
  let reached := r.place + r.value
  let codePoint := r.codePoint + reached / length
  if codePoint < bound ∧ codePoint.isValidChar then
    some {
      text := r.text.insertIdx (reached % length) (.ofNat codePoint)
      codePoint
      place := reached % length + 1
      bias := nextBias (r.place == 0) r.value length }
  else none

def Reading.step? (r : Reading) (c : Char) : Option Reading := do
  let digit ← digit? c
  let value := r.value + digit * r.weight
  let least := threshold r.bias r.position
  if bound ≤ r.place + value then none
  else if digit < least then Reading.put? { r with value := value }
  else
    let weight := r.weight * (36 - least)
    if bound ≤ weight then none
    else some { r with value := value, weight := weight, position := r.position + 36 }

def sections (cs : List Char) : List Char × List Char :=
  ((cs.reverse.dropWhile (· != '-')).tail.reverse, (cs.reverse.takeWhile (· != '-')).reverse)

def decode? (cs : List Char) : Option (List Char) := do
  let (plain, digits) := sections cs
  if plain.all (·.toNat < 128) ∧ (plain = [] → cs.head? ≠ some '-') then
    let r ← digits.foldlM Reading.step? { text := plain }
    if r.position = 36 then some r.text else none
  else none

end Catalog.DomainName.Punycode
