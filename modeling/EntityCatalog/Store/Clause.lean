import EntityCatalog.Error
import EntityCatalog.Store.Cell
import EntityCatalog.Store.Like

namespace EntityCatalog

inductive Clause where
  | constant (b : Bool)
  | all (parts : List Clause)
  | any (parts : List Clause)
  | negated (part : Clause)
  | isKind (path : String) (kinds : List Kind)
  | equals (path : String) (value : Value)
  | compares (order : Comparison) (path : String) (value : Value)
  | like (path : String) (pattern : List Char)
  | isNull (path : String)
  | isPresent (path : String)
deriving Repr, Inhabited

namespace Clause

def conj : Option Bool → Option Bool → Option Bool
  | some false, _ => some false
  | _, some false => some false
  | some true, some true => some true
  | _, _ => none

def disj : Option Bool → Option Bool → Option Bool
  | some true, _ => some true
  | _, some true => some true
  | some false, some false => some false
  | _, _ => none

def tested (test : Cell → Cell → Bool) (a b : Cell) : Option Bool :=
  if a.isNull || b.isNull then none else some (test a b)

mutual

def truth (d : Document) : Clause → Option Bool
  | .constant b => some b
  | .all cs => truthOfAll d cs
  | .any cs => truthOfAny d cs
  | .negated c => (truth d c).map (!·)
  | .isKind path kinds => (d.kind? path).map kinds.contains
  | .equals path v => tested Cell.same (d.cell path) (.ofBound v)
  | .compares order path v => tested order.holdsBetween (d.cell path) (.ofBound v)
  | .like path pattern =>
    -- Only texts are asked for their pattern, and only what stands before a NUL counts of it.
    match d.cell path with
    | .text s => some (Like.accepts (pattern.takeWhile (·.toNat ≠ 0)) (Like.fold s.toList))
    | _ => none
  | .isNull path => some (d.cell path).isNull
  | .isPresent path => some !(d.cell path).isNull

def truthOfAll (d : Document) : List Clause → Option Bool
  | [] => some true
  | c :: cs => conj (truth d c) (truthOfAll d cs)

def truthOfAny (d : Document) : List Clause → Option Bool
  | [] => some false
  | c :: cs => disj (truth d c) (truthOfAny d cs)

end

def selects (c : Clause) (d : Document) : Bool := c.truth d == some true

def longestPattern : Nat := 50000

-- Whether the store can make a test of one member. A pattern that is too long is refused even if
-- the member is no text.
def canTest (d : Document) : Clause → Bool
  | .constant _ | .all _ | .any _ | .negated _ => true
  | .like path pattern =>
    d.canRead path && (String.ofList pattern).utf8ByteSize ≤ longestPattern
  | .isKind path _ | .equals path _ | .compares _ path _ | .isNull path | .isPresent path =>
    d.canRead path

mutual

-- The truth of a clause as the store comes to it, where what is unknown stands for a given truth.
-- Parts are evaluated from the left only as long as they do not decide, and what stands behind is
-- not looked at.
def evaluate (d : Document) (unknown : Bool) : Clause → Except Failure Bool
  | .all cs => evaluateUntil d unknown false cs
  | .any cs => evaluateUntil d unknown true cs
  | .negated c => do return !(← evaluate d (!unknown) c)
  | c => if c.canTest d then .ok ((c.truth d).getD unknown) else .error .unreadable

def evaluateUntil (d : Document) (unknown decisive : Bool) : List Clause → Except Failure Bool
  | [] => .ok !decisive
  | c :: cs => do
    if (← evaluate d unknown c) = decisive then return decisive
    else evaluateUntil d unknown decisive cs

end

-- The height of conditions that are joined one after the other, each to all before it.
def joinedHeight : List Nat → Nat
  | [] => 1
  | h :: hs => hs.foldl (fun a b => max a b + 1) h

mutual

-- The heights of the conditions that a clause adds where conditions are joined that all have to
-- hold, or of which one has to; lists that are joined in the same way are put into the one around.
def heightsIn (whole : Bool) : Clause → List Nat
  | .constant _ => [1]
  | .all cs => if whole then heightsOf true cs else [joinedHeight (heightsOf true cs)]
  | .any cs => if whole then [joinedHeight (heightsOf false cs)] else heightsOf false cs
  -- To be no single kind is one comparison.
  | .negated (.isKind _ [_]) => [4]
  | .negated c => [joinedHeight (heightsIn true c) + 1]
  | .like .. => [5]
  | .isKind .. | .equals .. | .compares .. | .isNull _ | .isPresent _ => [4]

def heightsOf (whole : Bool) : List Clause → List Nat
  | [] => []
  | c :: cs => heightsIn whole c ++ heightsOf whole cs

end

def greatestHeight : Nat := 1000

-- Whether the condition of a clause is too high, behind those for the scope and the entity.
def isTooHigh (c : Clause) : Bool := greatestHeight < joinedHeight (3 :: 3 :: c.heightsIn true)

def isConstant (b : Bool) : Clause → Bool
  | .constant c => b == c
  | _ => false

def allOf (cs : List Clause) : Clause :=
  if cs.any (isConstant false) then .constant false
  else
    match cs.filter (!isConstant true ·) with
    | [] => .constant true
    | cs => .all cs

def anyOf (cs : List Clause) : Clause :=
  if cs.any (isConstant true) then .constant true
  else
    match cs.filter (!isConstant false ·) with
    | [] => .constant false
    | cs => .any cs

mutual

def values : Clause → List Value
  | .all cs | .any cs => valuesOfAll cs
  | .negated c => values c
  | .equals _ v | .compares _ _ v => [v]
  | _ => []

def valuesOfAll : List Clause → List Value
  | [] => []
  | c :: cs => values c ++ valuesOfAll cs

end

end Clause

end EntityCatalog
