namespace EntityCatalog.Table

def hexValue? (c : Char) : Option Nat :=
  if '0' ≤ c ∧ c ≤ '9' then some (c.toNat - '0'.toNat)
  else if 'a' ≤ c ∧ c ≤ 'f' then some (c.toNat - 'a'.toNat + 10)
  else none

def numbers (packed : String) : Array Nat :=
  let step (s : Array Nat × Option Nat) (c : Char) : Array Nat × Option Nat :=
    match hexValue? c, s with
    | some d, (a, n) => (a, some (n.getD 0 * 16 + d))
    | none, (a, some n) => (a.push n, none)
    | none, (a, none) => (a, none)
  match packed.foldl step (#[], none) with
  | (a, some n) => a.push n
  | (a, none) => a

-- The number of entries before `hi` that are at most `x`, given that it is at least `lo`.
def rankAux (a : Array Nat) (x lo hi : Nat) : Nat :=
  if lo < hi then
    let mid := (lo + hi) / 2
    if a[mid]?.any (· ≤ x) then rankAux a x (mid + 1) hi else rankAux a x lo mid
  else lo
termination_by hi - lo

def rank (a : Array Nat) (x : Nat) : Nat := rankAux a x 0 a.size

end EntityCatalog.Table

namespace EntityCatalog

-- A set of code points: the sorted bounds of its ranges, each first inside and then past it.
structure CodeSet where
  bounds : Array Nat
deriving Inhabited

namespace CodeSet

def ofPacked (packed : String) : CodeSet :=
  let ns := Table.numbers packed
  ⟨ns.mapIdx fun i n => if i % 2 = 0 then n else n + 1⟩

def ofRanges (ranges : List (Nat × Nat)) : CodeSet :=
  ⟨(ranges.flatMap fun r => [r.1, r.2 + 1]).toArray⟩

def containsCode (s : CodeSet) (n : Nat) : Bool := Table.rank s.bounds n % 2 = 1

def contains (s : CodeSet) (c : Char) : Bool := s.containsCode c.toNat

end CodeSet

structure CodeMap where
  starts : Array Nat
  values : Array Nat
deriving Inhabited

namespace CodeMap

def ofPacked (packed : String) : CodeMap :=
  let ns := (Table.numbers packed).toList
  let rec split : List Nat → List Nat × List Nat
    | s :: v :: rest => let (ss, vs) := split rest; (s :: ss, v :: vs)
    | _ => ([], [])
  let (ss, vs) := split ns
  ⟨ss.toArray, vs.toArray⟩

def get? (m : CodeMap) (c : Char) : Option Nat :=
  match Table.rank m.starts c.toNat with
  | 0 => none
  | i + 1 => m.values[i]?

end CodeMap

end EntityCatalog
