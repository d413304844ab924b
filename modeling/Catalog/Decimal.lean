namespace Catalog.Decimal

def digit? (c : Char) : Option Nat :=
  if c.isDigit then some (c.toNat - 48) else none

def natFrom? (acc : Nat) : List Char → Option Nat
  | [] => some acc
  | c :: cs => (digit? c).bind fun d => natFrom? (10 * acc + d) cs

/-- The number written by one or more digits and nothing else. -/
def nat? : List Char → Option Nat
  | [] => none
  | c :: cs => natFrom? 0 (c :: cs)

def unsigned? : List Char → Option Nat
  | '+' :: cs => nat? cs
  | cs => nat? cs

def signed? : List Char → Option Int
  | '-' :: cs => (nat? cs).map fun n => -(n : Int)
  | cs => (unsigned? cs).map fun n => (n : Int)

def toInt64? (n : Int) : Option Int64 :=
  if -0x8000000000000000 ≤ n ∧ n < 0x8000000000000000 then some (.ofInt n) else none

def toUInt64? (n : Nat) : Option UInt64 :=
  if n < 0x10000000000000000 then some (.ofNat n) else none

def int64? (s : String) : Option Int64 :=
  (signed? s.toList).bind toInt64?

def uint64? (s : String) : Option UInt64 :=
  (unsigned? s.toList).bind toUInt64?

def ofInt64 (n : Int64) : String :=
  toString n.toInt

def padded (width : Nat) (n : Nat) : List Char :=
  let digits := Nat.toDigits 10 n
  List.replicate (width - digits.length) '0' ++ digits

end Catalog.Decimal
