namespace EntityCatalog.Text

-- White space: the separators of Unicode and the control characters that act as such.
def isBlank (c : Char) : Bool :=
  let n := c.toNat
  (9 ≤ n && n ≤ 13) || (0x1c ≤ n && n ≤ 0x20) || n == 0x85 || n == 0xa0 || n == 0x1680 ||
  (0x2000 ≤ n && n ≤ 0x200a) || n == 0x2028 || n == 0x2029 || n == 0x202f || n == 0x205f ||
  n == 0x3000

def stripLeft (cs : List Char) : List Char := cs.dropWhile isBlank

def stripRight (cs : List Char) : List Char := (stripLeft cs.reverse).reverse

def strip (cs : List Char) : List Char := stripRight (stripLeft cs)

end EntityCatalog.Text

namespace String

def stripped (s : String) : String := String.ofList (EntityCatalog.Text.strip s.toList)

end String
