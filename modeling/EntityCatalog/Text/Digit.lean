import EntityCatalog.Text.Category

namespace EntityCatalog.Text

def isAsciiDigit (c : Char) : Bool := '0' ≤ c && c ≤ '9'

-- The digits from nought to nine of each script begin at these code points.
def digitRows : Array Nat :=
  Table.numbers "30 660 6f0 7c0 966 9e6 a66 ae6 b66 be6 c66 ce6 d66 de6 e50 ed0 f20 1040 1090 17e0 1810 1946
    19d0 1a80 1a90 1b50 1bb0 1c40 1c50 a620 a8d0 a900 a9d0 a9f0 aa50 abf0 ff10 104a0 10d30 11066
    110f0 11136 111d0 112f0 11450 114d0 11650 116c0 11730 118e0 11950 11c50 11d50 11da0 16a60
    16ac0 16b50 1d7ce 1d7d8 1d7e2 1d7ec 1d7f6 1e140 1e2f0 1e950 1fbf0"

def digitValue? (c : Char) : Option Nat :=
  if c.toNat < 0x80 then if isAsciiDigit c then some (c.toNat - '0'.toNat) else none
  else
    match Table.rank digitRows c.toNat with
    | 0 => none
    | i + 1 =>
      let d := c.toNat - digitRows.getD i 0
      if d < 10 then some d else none

def natOfDigits (cs : List Char) : Nat :=
  cs.foldl (fun n c => n * 10 + (c.toNat - '0'.toNat)) 0

end EntityCatalog.Text
