namespace EntityCatalog.Pattern

inductive Flag where
  | ignoreCase
  | multiline
  | dotAll
  | verbose
  | ascii
  | unicode
  | template
deriving DecidableEq, Repr

abbrev Flags := List Flag

namespace Flag

def isAlphabet : Flag → Bool
  | ascii | unicode => true
  | _ => false

end Flag

-- The flags inside of a group that turns some on and some off.
def Flags.inside (flags on off : Flags) : Flags :=
  let kept := if on.any Flag.isAlphabet then flags.filter (!·.isAlphabet) else flags
  (kept ++ on).filter (!off.contains ·)

inductive Class where
  | digit
  | space
  | word
deriving DecidableEq, Repr

inductive SetItem where
  | literal (code : Nat)
  | range (low high : Nat)
  | «class» (kind : Class) (negated : Bool)
deriving DecidableEq, Repr

inductive Anchor where
  | lineStart
  | lineEnd
  | textStart
  | textEnd
  | boundary
  | noBoundary
deriving DecidableEq, Repr

-- How a loop chooses its number of rounds: many first, few first, or many and no other.
inductive Greed where
  | greedy
  | lazy
  | possessive
deriving DecidableEq, Repr

structure Width where
  least : Nat
  most : Nat
deriving DecidableEq, Repr

namespace Width

-- Past this length a width counts as without bound.
def bound : Nat := Nat.pow 2 64

def zero : Width := ⟨0, 0⟩

def one : Width := ⟨1, 1⟩

def add (a b : Width) : Width := ⟨a.least + b.least, a.most + b.most⟩

def either (a b : Width) : Width := ⟨min a.least b.least, max a.most b.most⟩

def capped (w : Width) : Width := ⟨min w.least bound, min w.most bound⟩

end Width

inductive Node where
  | literal (code : Nat)
  | notLiteral (code : Nat)
  | any
  | set (negated : Bool) (items : List SetItem)
  | anchor (kind : Anchor)
  | group (index : Option Nat) (on off : Flags) (body : List Node)
  | branch (choices : List (List Node))
  | loop (greed : Greed) (least : Nat) (most : Option Nat) (body : List Node)
  | backref (index : Nat) (width : Width)
  | given (index : Nat) (yes no : List Node)
  | look (behind negated : Bool) (body : List Node)
  | atomic (body : List Node)
deriving Repr, Inhabited

mutual

def Node.width : Node → Width
  | .literal _ | .notLiteral _ | .any | .set .. => .one
  | .anchor _ | .look .. => .zero
  | .group _ _ _ body | .atomic body => widthOf body
  | .branch choices => (widthOfChoices choices).getD .zero
  | .loop _ least most body =>
    let w := widthOf body
    ⟨w.least * least,
      match most with
      | some n => w.most * n
      | none => if w.most = 0 then 0 else Width.bound⟩
  | .backref _ w => w
  | .given _ yes no => (widthOf yes).either (widthOf no)

def widthOf : List Node → Width
  | [] => .zero
  | n :: ns => (n.width.add (widthOf ns)).capped

def widthOfChoices : List (List Node) → Option Width
  | [] => none
  | c :: cs =>
    match widthOfChoices cs with
    | some w => some ((widthOf c).either w)
    | none => some (widthOf c)

end

structure Program where
  flags : Flags
  body : List Node
deriving Repr, Inhabited

end EntityCatalog.Pattern
