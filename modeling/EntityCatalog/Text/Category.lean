import EntityCatalog.Text.Table
import EntityCatalog.Text.Category.Table

namespace EntityCatalog.Text

inductive Category where
  | lu | ll | lt | lm | lo
  | mn | mc | me
  | nd | nl | no
  | pc | pd | ps | pe | pi | pf | po
  | sm | sc | sk | so
  | zs | zl | zp
  | cc | cf | cs | co | cn
deriving DecidableEq, Repr, Inhabited

namespace Category

def all : Array Category :=
  #[lu, ll, lt, lm, lo, mn, mc, me, nd, nl, no, pc, pd, ps, pe, pi, pf, po, sm, sc, sk, so,
    zs, zl, zp, cc, cf, cs, co, cn]

def isLetter : Category → Bool
  | lu | ll | lt | lm | lo => true
  | _ => false

def isMark : Category → Bool
  | mn | mc | me => true
  | _ => false

def isNumber : Category → Bool
  | nd | nl | no => true
  | _ => false

def isPunctuation : Category → Bool
  | pc | pd | ps | pe | pi | pf | po => true
  | _ => false

def isSymbol : Category → Bool
  | sm | sc | sk | so => true
  | _ => false

def isSeparator : Category → Bool
  | zs | zl | zp => true
  | _ => false

def isOther : Category → Bool
  | cc | cf | cs | co | cn => true
  | _ => false

end Category

def categories : CodeMap := CodeMap.ofPacked categoryTable

def category (c : Char) : Category :=
  ((categories.get? c).bind (Category.all[·]?)).getD .cn

def isAlphanumeric (c : Char) : Bool :=
  let k := category c
  k.isLetter || k.isNumber

def isWord (c : Char) : Bool := isAlphanumeric c || c == '_'

-- What can be shown as itself: neither a separator other than the blank nor unassigned.
def isPrintable (c : Char) : Bool :=
  c == ' ' || !((category c).isSeparator || (category c).isOther)

def isDecimal (c : Char) : Bool :=
  if c.toNat < 0x80 then '0' ≤ c && c ≤ '9' else category c == .nd

end EntityCatalog.Text
