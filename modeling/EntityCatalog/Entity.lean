import EntityCatalog.Field.Reader
import EntityCatalog.Text.Case
import EntityCatalog.Text.Split

namespace EntityCatalog

def Text.joinBlanks : List Char → List Char
  | [] => []
  | c :: cs =>
    if isBlank c then
      match cs with
      | [] => ['_']
      | d :: _ => if isBlank d then joinBlanks cs else '_' :: joinBlanks cs
    else c :: joinBlanks cs

def tableName (name : List Char) : List Char := Text.joinBlanks (Text.lower (Text.strip name))

structure Entity where
  id : String
  scope : String
  name : String
  tableName : String
  fields : List Field
  createdAt : String
  updatedAt : String
deriving Repr, Inhabited

inductive IdKind where
  | definition
  | record
deriving DecidableEq, Repr

namespace IdKind

def name : IdKind → String
  | definition => "definition"
  | record => "record"

def ofName? (s : String) : Option IdKind :=
  if s = "definition" then some definition else if s = "record" then some record else none

def mark : IdKind → String
  | definition => "def_"
  | record => "rec_"

def idOf (k : IdKind) (digits : String) : String := k.mark ++ digits

def isIdDigit (c : Char) : Bool := ('0' ≤ c && c ≤ '9') || ('a' ≤ c && c ≤ 'f')

-- The mark and sixteen digits; a line break may follow them.
def accepts (k : IdKind) (s : String) : Bool :=
  match Text.after? k.mark.toList s.toList with
  | some rest =>
    let digits := rest.take 16
    digits.length == 16 && digits.all isIdDigit && (rest.drop 16 == [] || rest.drop 16 == ['\n'])
  | none => false

def isIdOf (kind s : String) : Bool := (ofName? kind).any (·.accepts s)

end IdKind

end EntityCatalog
