import Catalog.Calendar.Instant
import Catalog.Decimal
import Catalog.Text.Blank

namespace Catalog.Timestamp

open Text (isBlank skipBlanks)

/-- Four digits for the years 0 to 9999; a sign and at least four digits for the others. -/
def yearText (year : Int) : List Char :=
  if 0 ≤ year ∧ year ≤ 9999 then Decimal.padded 4 year.toNat
  else (if year < 0 then '-' else '+') :: Decimal.padded 4 year.natAbs

/-- A fraction of a second in 0, 3, 6 or 9 digits, the fewest that lose nothing. -/
def fractionText (nano : Nat) : List Char :=
  if nano = 0 then []
  else if nano % 1_000_000 = 0 then '.' :: Decimal.padded 3 (nano / 1_000_000)
  else if nano % 1_000 = 0 then '.' :: Decimal.padded 6 (nano / 1_000)
  else '.' :: Decimal.padded 9 nano

/-- The text of a moment: date, `T`, time and `Z`, a leap second having the number 60. -/
def chars (t : Instant) : List Char :=
  let leap := if 1_000_000_000 ≤ t.nano then 1 else 0
  yearText t.date.year ++ '-' :: Decimal.padded 2 t.date.month ++ '-' ::
    Decimal.padded 2 t.date.day ++ 'T' :: Decimal.padded 2 t.hour ++ ':' ::
    Decimal.padded 2 t.minute ++ ':' :: Decimal.padded 2 (t.second + leap) ++
    fractionText (t.nano % 1_000_000_000) ++ ['Z']

def text (t : Instant) : String := .ofList (chars t)

def digits? (cs : List Char) : Option (Nat × List Char) :=
  (Decimal.nat? (cs.takeWhile Char.isDigit)).map fun n => (n, cs.dropWhile Char.isDigit)

def shortDigits? (most : Nat) (cs : List Char) : Option (Nat × List Char) :=
  let ds := (cs.take most).takeWhile Char.isDigit
  (Decimal.nat? ds).map fun n => (n, cs.drop ds.length)

def field? (least most : Nat) (cs : List Char) : Option (Nat × List Char) :=
  (shortDigits? 2 (skipBlanks cs)).bind fun r =>
    if least ≤ r.1 ∧ r.1 ≤ most then some r else none

def mark? (c : Char) (cs : List Char) : Option (List Char) :=
  match skipBlanks cs with
  | d :: r => if d = c then some r else none
  | [] => none

def year? (cs : List Char) : Option (Int × List Char) :=
  match skipBlanks cs with
  | '-' :: r => (digits? r).map fun y => (-(y.1 : Int), y.2)
  | '+' :: r => (digits? r).map fun y => ((y.1 : Int), y.2)
  | r => (shortDigits? 4 r).map fun y => ((y.1 : Int), y.2)

def date? (cs : List Char) : Option (Date × List Char) := do
  let (year, cs) ← year? cs
  let (month, cs) ← field? 1 12 (← mark? '-' cs)
  let (day, cs) ← field? 1 31 (← mark? '-' cs)
  return (← Date.of? year month day, cs)

def divider? : List Char → Option (List Char)
  | 't' :: cs | 'T' :: cs | ' ' :: cs => some cs
  | _ => none

/-- A fraction of a second in nanoseconds; digits after the ninth are passed over. -/
def fraction? : List Char → Option (Nat × List Char)
  | '.' :: cs =>
    let ds := (cs.take 9).takeWhile Char.isDigit
    (Decimal.nat? ds).map fun n =>
      (n * Nat.pow 10 (9 - ds.length), (cs.drop ds.length).dropWhile Char.isDigit)
  | cs => some (0, cs)

def twoDigits? : List Char → Option (Nat × List Char)
  | a :: b :: cs => (Decimal.nat? [a, b]).map fun n => (n, cs)
  | _ => none

def offsetMinutes? (cs : List Char) : Option (Nat × List Char) :=
  (twoDigits? (cs.dropWhile fun c => c == ':' || isBlank c)).bind fun r =>
    if r.1 < 60 then some r else none

def offsetSize? (cs : List Char) : Option (Nat × List Char) := do
  let (hours, cs) ← twoDigits? cs
  let (minutes, cs) ← offsetMinutes? cs
  if hours < 24 then some (hours * 60 + minutes, cs) else none

/-- An offset from UTC in minutes: `Z`, `UTC`, or a sign and a size, where the sign may be the
minus sign proper. -/
def offset? : List Char → Option (Int × List Char)
  | 'Z' :: cs | 'z' :: cs => some (0, cs)
  | '+' :: cs => (offsetSize? cs).map fun r => ((r.1 : Int), r.2)
  | '-' :: cs | '−' :: cs => (offsetSize? cs).map fun r => (-(r.1 : Int), r.2)
  | a :: b :: c :: cs =>
    if a.toLower = 'u' ∧ b.toLower = 't' ∧ c.toLower = 'c' then some (0, cs) else none
  | _ => none

def read? (cs : List Char) : Option Instant := do
  let (date, cs) ← date? cs
  let (hour, cs) ← field? 0 23 (← divider? cs)
  let (minute, cs) ← field? 0 59 (← mark? ':' cs)
  let (second, cs) ← field? 0 60 (← mark? ':' cs)
  let (nano, cs) ← fraction? cs
  let (offset, cs) ← offset? (skipBlanks cs)
  if skipBlanks cs = [] then
    if second = 60 then Instant.ofLocal? offset date hour minute 59 (1_000_000_000 + nano)
    else Instant.ofLocal? offset date hour minute second nano
  else none

def parse? (s : String) : Option Instant := read? s.toList

end Catalog.Timestamp
