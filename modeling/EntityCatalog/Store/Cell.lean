import EntityCatalog.Json.Writer
import EntityCatalog.Predicate.Basic
import EntityCatalog.Store.Path

namespace EntityCatalog

inductive Kind where
  | null
  | truth (b : Bool)
  | integer
  | real
  | text
  | list
  | object
deriving DecidableEq, Repr

def isWord (n : Int) : Bool := -(Int.pow 2 63) ≤ n && n < Int.pow 2 63

inductive Cell where
  | null
  | int (n : Int)
  | real (x : Binary64)
  | text (s : String)
deriving Repr, Inhabited

namespace Cell

-- An integer of more than 64 bits is read as the number nearest to it.
def ofInt (n : Int) : Cell := if isWord n then int n else real (.ofRatio (n < 0) n.natAbs 1)

def beforeNul (s : String) : String := String.ofList (s.toList.takeWhile (·.toNat ≠ 0))

def ofValue : Value → Cell
  | .null => null
  | .bool b => int (if b then 1 else 0)
  | .int n => ofInt n
  | .real x => real x
  | .text s => text (beforeNul s)
  | v => text (v.toJson .dense)

def ofBound : Value → Cell
  | .text s => text s
  | .real .nan => null
  | v => ofValue v

def position? : Cell → Option Position
  | int n => some (.ofInt n)
  | real x => some x.position
  | _ => none

def lt : Cell → Cell → Bool
  | null, null => false
  | null, _ => true
  | text s, text t => decide (s < t)
  | a, text _ => a.position?.isSome
  | a, b =>
    match a.position?, b.position? with
    | some p, some q => p.lt q
    | _, _ => false

def same : Cell → Cell → Bool
  | null, null => true
  | text s, text t => s == t
  | a, b =>
    match a.position?, b.position? with
    | some p, some q => p.same q
    | _, _ => false

def le (a b : Cell) : Bool := a.lt b || a.same b

def isNull : Cell → Bool
  | null => true
  | _ => false

end Cell

def Comparison.holdsBetween (c : Comparison) (a b : Cell) : Bool :=
  match c with
  | less => a.lt b
  | lessOrEqual => a.le b
  | greater => b.lt a
  | greaterOrEqual => b.le a

def Value.kind : Value → Kind
  | null => .null
  | bool b => .truth b
  | int _ => .integer
  | real _ => .real
  | list _ => .list
  | object _ => .object
  | _ => .text

mutual

def Value.isFinite : Value → Bool
  | .real x => x.isFinite
  | .list vs => Value.allFiniteItems vs
  | .object ms => Value.allFinite ms
  | _ => true

def Value.allFiniteItems : List Value → Bool
  | [] => true
  | v :: vs => v.isFinite && Value.allFiniteItems vs

def Value.allFinite : List (String × Value) → Bool
  | [] => true
  | m :: ms => m.2.isFinite && Value.allFinite ms

end

namespace Document

-- The member whose name is written in stored documents as a label.
def labelled? (d : Document) (label : String) : Option Value :=
  (d.find? fun m => Json.escapeText true m.1 == label).map (·.2)

def cell (d : Document) (label : String) : Cell :=
  match d.labelled? label with
  | some v => .ofValue v
  | none => .null

def kind? (d : Document) (label : String) : Option Kind := (d.labelled? label).map Value.kind

-- Whether the store can look for a member; it reads the whole document for that.
def canRead (d : Document) (path : String) : Bool := isPath path && Value.allFinite d

end Document

end EntityCatalog
