import EntityCatalog.Text.Category
import EntityCatalog.Text.Blank
import EntityCatalog.Text.Digit

namespace EntityCatalog.Text

-- Letters that cannot begin an identifier, since their compatibility forms do not.
def lateLetters : CodeSet := CodeSet.ofPacked
  "37a 37a e33 e33 eb3 eb3 2e2f 2e2f fc5e fc63 fdfa fdfb fe70 fe70 fe72 fe72 fe74 fe74 fe76 fe76
    fe78 fe78 fe7a fe7a fe7c fe7c fe7e fe7e ff9e ff9f"

def foreignLetters : CodeSet := CodeSet.ofPacked
  "37a 37a 2e2f 2e2f fc5e fc63 fdfa fdfb fe70 fe70 fe72 fe72 fe74 fe74 fe76 fe76 fe78 fe78
    fe7a fe7a fe7c fe7c fe7e fe7e"

def startersBeside : CodeSet := CodeSet.ofPacked "1885 1886 2118 2118 212e 212e"

def partsBeside : CodeSet := CodeSet.ofPacked "b7 b7 387 387 1369 1371 19da 19da 2118 2118 212e 212e"

def startsIdentifier (c : Char) : Bool :=
  let k := category c
  ((k.isLetter || k == .nl || c == '_') && !lateLetters.contains c) || startersBeside.contains c

def continuesIdentifier (c : Char) : Bool :=
  let k := category c
  ((k.isLetter || k == .nl || k == .mn || k == .mc || k == .nd || k == .pc) &&
    !foreignLetters.contains c) || partsBeside.contains c

def isIdentifier : List Char → Bool
  | [] => false
  | c :: cs => startsIdentifier c && cs.all continuesIdentifier

def readDigits? (cs : List Char) : Option Nat :=
  let rec go (n : Nat) (afterDigit : Bool) : List Char → Option Nat
    | [] => if afterDigit then some n else none
    | '_' :: cs => if afterDigit then go n false cs else none
    | c :: cs => (digitValue? c).bind fun d => go (n * 10 + d) true cs
  go 0 false cs

def readInteger? (cs : List Char) : Option Int :=
  let cs := strip cs
  let (negative, cs) := match cs with
    | '-' :: r => (true, r)
    | '+' :: r => (false, r)
    | r => (false, r)
  if 4300 < (cs.filter (· ≠ '_')).length then none
  else (readDigits? cs).map fun n => if negative then -(n : Int) else n

end EntityCatalog.Text
