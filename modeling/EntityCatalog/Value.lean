import EntityCatalog.Numeric.Binary64
import EntityCatalog.Calendar.Moment

namespace EntityCatalog

-- A value of a document. Objects keep the order of their members.
inductive Value where
  | null
  | bool (b : Bool)
  | int (n : Int)
  | real (x : Binary64)
  | text (s : String)
  | date (d : Date)
  | moment (m : Moment)
  | list (items : List Value)
  | object (members : List (String × Value))
deriving Inhabited, Repr

abbrev Document := List (String × Value)

namespace Document

def get? (d : Document) (key : String) : Option Value := d.lookup key

def has (d : Document) (key : String) : Bool := d.any (·.1 == key)

def set (d : Document) (key : String) (v : Value) : Document :=
  if d.has key then d.map fun m => if m.1 == key then (key, v) else m else d ++ [(key, v)]

def merge (d changes : Document) : Document := changes.foldl (fun d m => d.set m.1 m.2) d

def keys (d : Document) : List String := d.map (·.1)

end Document

namespace Value

def position? : Value → Option Position
  | bool b => some (.ofInt (if b then 1 else 0))
  | int n => some (.ofInt n)
  | real x => some x.position
  | _ => none

def isBool : Value → Bool
  | bool _ => true
  | _ => false

def isNull : Value → Bool
  | null => true
  | _ => false

end Value

-- Moments are equal at the same instant, or at the same reading of clocks without a distance.
def Moment.same (a b : Moment) : Bool :=
  match a.offset, b.offset with
  | none, none => a.reading == b.reading
  | some o, some p => (a.reading : Int) - o == b.reading - p
  | _, _ => false

mutual

def Value.same : Value → Value → Bool
  | .null, b => match b with
    | .null => true
    | _ => false
  | .bool b, v => match v.position? with
    | some p => (Position.ofInt (if b then 1 else 0)).same p
    | none => false
  | .int n, v => match v.position? with
    | some p => (Position.ofInt n).same p
    | none => false
  | .real x, v => match v.position? with
    | some p => x.position.same p
    | none => false
  | .text s, v => match v with
    | .text t => s == t
    | _ => false
  | .date d, v => match v with
    | .date e => d == e
    | _ => false
  | .moment m, v => match v with
    | .moment n => m.same n
    | _ => false
  | .list xs, v => match v with
    | .list ys => Value.sameItems xs ys
    | _ => false
  | .object ms, v => match v with
    | .object ns => ms.length == ns.length && Value.sameMembers ms ns
    | _ => false

def Value.sameItems : List Value → List Value → Bool
  | [], ys => ys.isEmpty
  | x :: xs, ys => match ys with
    | y :: ys => Value.same x y && Value.sameItems xs ys
    | [] => false

def Value.sameMembers : List (String × Value) → List (String × Value) → Bool
  | [], _ => true
  | (k, v) :: ms, ns =>
    (match ns.lookup k with
      | some w => Value.same v w
      | none => false) && Value.sameMembers ms ns

end

end EntityCatalog
