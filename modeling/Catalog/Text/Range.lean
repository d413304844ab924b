namespace Catalog.Text

/-- Whether a character lies in one of the ranges of code points, both ends included. -/
def inRanges (ranges : List (Nat × Nat)) (c : Char) : Bool :=
  ranges.any fun r => r.1 ≤ c.toNat && c.toNat ≤ r.2

def rangeValue? {α : Type} (ranges : List (Nat × Nat × α)) (c : Char) : Option α :=
  ranges.findSome? fun r => if r.1 ≤ c.toNat ∧ c.toNat ≤ r.2.1 then some r.2.2 else none

end Catalog.Text
