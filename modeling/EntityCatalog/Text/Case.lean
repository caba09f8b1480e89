import EntityCatalog.Text.Table
import EntityCatalog.Text.Case.Table

namespace EntityCatalog.Text

def lowerRuns : Array Nat × Array LowerRun :=
  ((lowerTable.map (·.1)).toArray, (lowerTable.map (·.2)).toArray)

-- The lower-case letter of one character, without regard to its neighbours; a dotted capital I
-- loses its dot. The capitals of ASCII are told without the table.
def lowerChar (c : Char) : Char :=
  if c = 'İ' then 'i'
  else if c.toNat < 0x80 then c.toLower else
  match Table.rank lowerRuns.1 c.toNat with
  | 0 => c
  | i + 1 =>
    let first := lowerRuns.1.getD i 0
    let run := lowerRuns.2.getD i default
    if c.toNat ≤ run.last ∧ (c.toNat - first) % run.step = 0 then
      Char.ofNat (run.lower + (c.toNat - first))
    else c

def casedSet : CodeSet := CodeSet.ofRanges casedTable

def caseIgnorableSet : CodeSet := CodeSet.ofRanges caseIgnorableTable

def isCased (c : Char) : Bool :=
  if c.toNat < 0x80 then c.isAlpha else casedSet.contains c

def isCaseIgnorable (c : Char) : Bool :=
  if c.toNat < 0x80 then [0x27, 0x2e, 0x3a, 0x5e, 0x60].contains c.toNat
  else caseIgnorableSet.contains c

def meetsCased (cs : List Char) : Bool :=
  match cs.dropWhile isCaseIgnorable with
  | c :: _ => isCased c
  | [] => false

def lowerAt (before : List Char) (c : Char) (after : List Char) : List Char :=
  if c = 'Σ' then
    if meetsCased before ∧ ¬ meetsCased after then ['ς'] else ['σ']
  else if c = 'İ' then ['i', '\u0307']
  else [lowerChar c]

def lowerAux (before : List Char) : List Char → List Char
  | [] => []
  | c :: rest => lowerAt before c rest ++ lowerAux (c :: before) rest

def lower (cs : List Char) : List Char := lowerAux [] cs

end EntityCatalog.Text

namespace String

def lowered (s : String) : String := String.ofList (EntityCatalog.Text.lower s.toList)

end String
