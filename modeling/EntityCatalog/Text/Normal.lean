import EntityCatalog.Text.Table
import EntityCatalog.Text.Normal.Table

namespace EntityCatalog.Text

def groups : Nat → List Nat → List (Nat × List Nat)
  | 0, _ => []
  | fuel + 1, c :: n :: rest => (c, rest.take n) :: groups fuel (rest.drop n)
  | _ + 1, _ => []

structure TextMap where
  codes : Array Nat
  texts : Array (List Char)
deriving Inhabited

namespace TextMap

def ofPacked (packed : String) : TextMap :=
  let ns := (Table.numbers packed).toList
  let gs := groups ns.length ns
  ⟨(gs.map (·.1)).toArray, (gs.map fun g => g.2.map Char.ofNat).toArray⟩

def get? (m : TextMap) (c : Char) : Option (List Char) :=
  match Table.rank m.codes c.toNat with
  | 0 => none
  | i + 1 => if m.codes.getD i 0 = c.toNat then m.texts[i]? else none

end TextMap

def decompositions : TextMap := TextMap.ofPacked decomposedTable

def combiningClasses : CodeMap := CodeMap.ofPacked combiningTable

def combiningClass (c : Char) : Nat := (combiningClasses.get? c).getD 0

def pairKey (a b : Nat) : Nat := a * 0x110000 + b

def compositions : Array Nat × Array Nat :=
  let rec triples : List Nat → List (Nat × Nat)
    | a :: b :: c :: rest => (pairKey a b, c) :: triples rest
    | _ => []
  let sorted := (triples (Table.numbers composedTable).toList).mergeSort fun x y => x.1 ≤ y.1
  ((sorted.map (·.1)).toArray, (sorted.map (·.2)).toArray)

def composeHangul? (a b : Nat) : Option Nat :=
  if 0x1100 ≤ a ∧ a < 0x1113 ∧ 0x1161 ≤ b ∧ b < 0x1176 then
    some (0xac00 + ((a - 0x1100) * 21 + (b - 0x1161)) * 28)
  else if 0xac00 ≤ a ∧ a < 0xd7a4 ∧ (a - 0xac00) % 28 = 0 ∧ 0x11a7 < b ∧ b < 0x11c3 then
    some (a + (b - 0x11a7))
  else none

def compose? (a b : Char) : Option Char :=
  match composeHangul? a.toNat b.toNat with
  | some n => some (Char.ofNat n)
  | none =>
    let key := pairKey a.toNat b.toNat
    match Table.rank compositions.1 key with
    | 0 => none
    | i + 1 =>
      if compositions.1.getD i 0 = key then (compositions.2[i]?).map Char.ofNat else none

def decomposeChar (c : Char) : List Char :=
  let n := c.toNat
  if 0xac00 ≤ n ∧ n < 0xd7a4 then
    let s := n - 0xac00
    let head := [Char.ofNat (0x1100 + s / 588), Char.ofNat (0x1161 + s % 588 / 28)]
    if s % 28 = 0 then head else head ++ [Char.ofNat (0x11a7 + s % 28)]
  else (decompositions.get? c).getD [c]

-- Puts a mark in front of those before it that have a higher class; `acc` is in reverse.
def insertMark (c : Char) (k : Nat) : List Char → List Char
  | [] => [c]
  | d :: rest => if k < combiningClass d then d :: insertMark c k rest else c :: d :: rest

def orderMarks (cs : List Char) : List Char :=
  (cs.foldl (fun acc c =>
    let k := combiningClass c
    if k = 0 then c :: acc else insertMark c k acc) []).reverse

structure Composing where
  done : List Char := []
  starter : Option Char := none
  marks : List Char := []

namespace Composing

-- A character is blocked if a mark of no lower class stands between it and the starter.
def step (s : Composing) (c : Char) : Composing :=
  let k := combiningClass c
  match s.starter with
  | none => if k = 0 then { s with starter := some c } else { s with done := c :: s.done }
  | some a =>
    let blocked := match s.marks with
      | [] => false
      | m :: _ => k ≤ combiningClass m
    match if blocked then none else compose? a c with
    | some x => { s with starter := some x }
    | none =>
      if k = 0 then { done := s.marks ++ a :: s.done, starter := some c, marks := [] }
      else { s with marks := c :: s.marks }

def finish (s : Composing) : List Char :=
  match s.starter with
  | none => s.done.reverse
  | some a => (s.marks ++ a :: s.done).reverse

end Composing

def composed (cs : List Char) : List Char :=
  if cs.all fun c => c.toNat < 0x300 then cs
  else ((orderMarks (cs.flatMap decomposeChar)).foldl Composing.step {}).finish

end EntityCatalog.Text
