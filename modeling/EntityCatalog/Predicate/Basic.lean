import EntityCatalog.Text.Case
import EntityCatalog.Value.Display

namespace EntityCatalog

inductive Part where
  | anywhere
  | start
  | «end»
deriving DecidableEq, Repr

inductive Comparison where
  | less
  | lessOrEqual
  | greater
  | greaterOrEqual
deriving DecidableEq, Repr

inductive Predicate where
  | always
  | all (parts : List Predicate)
  | any (parts : List Predicate)
  | equals (path : String) (value : Value)
  | notEquals (path : String) (value : Value)
  | contains (part : Part) (path : String) (value : Value)
  | compares (order : Comparison) (path : String) (value : Value)
  | anyOf (path : String) (values : List Value)
  | noneOf (path : String) (values : List Value)
  | absent (path : String)
  | present (path : String)
  -- An equality of a kind that a store does not know.
  | foreignEquals (path : String) (value : Value)
deriving Repr, Inhabited

def occursIn (short : List Char) : List Char → Bool
  | [] => short.isEmpty
  | c :: cs => short.isPrefixOf (c :: cs) || occursIn short cs

def Part.holds (part : Part) (short long : List Char) : Bool :=
  match part with
  | .anywhere => occursIn short long
  | .start => short.isPrefixOf long
  | .end => short.isSuffixOf long

namespace Comparison

def holdsAt (c : Comparison) (a b : Position) : Bool :=
  match c with
  | less => a.lt b
  | lessOrEqual => a.le b
  | greater => b.lt a
  | greaterOrEqual => b.le a

def holdsFor (c : Comparison) (s t : String) : Bool :=
  match c with
  | less => decide (s < t)
  | lessOrEqual => !decide (t < s)
  | greater => decide (t < s)
  | greaterOrEqual => !decide (s < t)

def holds (c : Comparison) (actual expected : Value) : Bool :=
  match actual, expected with
  | .text s, .text t => c.holdsFor s t
  | .int _, .int _ | .int _, .real _ | .real _, .int _ | .real _, .real _ =>
    match actual.position?, expected.position? with
    | some a, some b => c.holdsAt a b
    | _, _ => false
  | _, _ => false

end Comparison

-- Equality of a member and a value; a truth value equals no number.
def Value.matchesSame (actual expected : Value) : Bool :=
  actual.isBool == expected.isBool && actual.same expected

namespace Document

def present? (d : Document) (path : String) : Option Value :=
  match d.get? path with
  | none | some .null => none
  | some v => some v

end Document

namespace Predicate

def textHas (part : Part) (value actual : Value) : Bool :=
  match actual with
  | .text s => part.holds (Text.lower value.display.toList) (Text.lower s.toList)
  | _ => false

mutual

def holds (d : Document) : Predicate → Bool
  | .always => true
  | .all ps => holdsAll d ps
  | .any ps => holdsAny d ps
  | .equals path v | .foreignEquals path v => (d.present? path).any (·.matchesSame v)
  | .notEquals path v => (d.present? path).any (!·.matchesSame v)
  | .contains part path v => (d.present? path).any (textHas part v)
  | .compares order path v => (d.present? path).any (order.holds · v)
  | .anyOf path vs => (d.present? path).any fun a => vs.any a.matchesSame
  | .noneOf path vs => (d.present? path).any fun a => !vs.any a.matchesSame
  | .absent path => (d.present? path).isNone
  | .present path => (d.present? path).isSome

def holdsAll (d : Document) : List Predicate → Bool
  | [] => true
  | p :: ps => p.holds d && holdsAll d ps

def holdsAny (d : Document) : List Predicate → Bool
  | [] => false
  | p :: ps => p.holds d || holdsAny d ps

end

def expand? : Predicate → Option Predicate
  | .anyOf path vs => some (.any (vs.map (.equals path)))
  | .noneOf path vs => some (.all (vs.map (.notEquals path)))
  | _ => none

end Predicate

end EntityCatalog
