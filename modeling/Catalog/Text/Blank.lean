namespace Catalog.Text

/-- Characters with the Unicode property White_Space. -/
def isBlank (c : Char) : Bool :=
  let n := c.toNat
  (9 ≤ n && n ≤ 13) || n == 0x20 || n == 0x85 || n == 0xa0 || n == 0x1680 ||
    (0x2000 ≤ n && n ≤ 0x200a) || n == 0x2028 || n == 0x2029 || n == 0x202f || n == 0x205f ||
    n == 0x3000

def skipBlanks (cs : List Char) : List Char := cs.dropWhile isBlank

def dropBlankEnd (cs : List Char) : List Char :=
  (skipBlanks cs.reverse).reverse

def trimBlank (cs : List Char) : List Char :=
  dropBlankEnd (skipBlanks cs)

def trim (s : String) : String :=
  .ofList (trimBlank s.toList)

def isAllBlank (s : String) : Bool :=
  s.toList.all isBlank

@[simp] theorem toList_trim (s : String) : (trim s).toList = trimBlank s.toList := by
  simp [trim]

end Catalog.Text
