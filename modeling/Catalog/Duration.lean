import Catalog.Decimal

namespace Catalog

structure Duration where
  nanos : Nat
  deriving DecidableEq, Repr, Inhabited

namespace Duration

def ofSeconds (n : Nat) : Duration := ⟨n * 1_000_000_000⟩

def ofMillis (n : Nat) : Duration := ⟨n * 1_000_000⟩

/-- The largest unit that goes into a span at least once, as the number of decimal places from it
down to a nanosecond, and its symbol. -/
def unit (d : Duration) : Nat × String :=
  if 1_000_000_000 ≤ d.nanos then (9, "s")
  else if 1_000_000 ≤ d.nanos then (6, "ms")
  else if 1_000 ≤ d.nanos then (3, "µs")
  else (0, "ns")

def decimals (places part : Nat) : List Char :=
  ((Decimal.padded places part).reverse.dropWhile (· == '0')).reverse

def text (d : Duration) : String :=
  let (places, symbol) := d.unit
  let fraction := decimals places (d.nanos % Nat.pow 10 places)
  let point := if fraction.isEmpty then [] else '.' :: fraction
  toString (d.nanos / Nat.pow 10 places) ++ .ofList point ++ symbol

end Duration

end Catalog
