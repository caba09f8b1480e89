import EntityCatalog.Address.Label
import EntityCatalog.Address.Mapping.Table
import EntityCatalog.Text.Normal

namespace EntityCatalog.Address

def keptSet : CodeSet := CodeSet.ofPacked keptTable

def droppedSet : CodeSet := CodeSet.ofPacked droppedTable

structure MappedRun where
  last : Nat
  step : Nat
  target : Nat
deriving Inhabited

def mappedRuns : Array Nat × Array MappedRun :=
  let rec group : List Nat → List (Nat × MappedRun)
    | a :: b :: s :: t :: rest => (a, ⟨b, s, t⟩) :: group rest
    | _ => []
  let rs := group (Table.numbers mappedTable).toList
  ((rs.map (·.1)).toArray, (rs.map (·.2)).toArray)

def expansions : Text.TextMap := Text.TextMap.ofPacked expandedTable

def mappedChar? (c : Char) : Option Char :=
  match Table.rank mappedRuns.1 c.toNat with
  | 0 => none
  | i + 1 =>
    let first := mappedRuns.1.getD i 0
    let run := mappedRuns.2.getD i default
    if c.toNat ≤ run.last ∧ (c.toNat - first) % run.step = 0 then
      some (Char.ofNat (run.target + (c.toNat - first)))
    else none

-- What a character becomes; none if it may not occur.
def mapChar? (c : Char) : Option (List Char) :=
  if keptSet.contains c then some [c]
  else if droppedSet.contains c then some []
  else
    match mappedChar? c with
    | some d => some [d]
    | none => expansions.get? c

def mapFrom (name : List Char) : Nat → List Char → Except HostFault (List Char)
  | _, [] => .ok []
  | i, c :: cs =>
    match mapChar? c with
    | none => .error (.unmappedChar c i name)
    | some ds => do
      let rest ← mapFrom name (i + 1) cs
      .ok (ds ++ rest)

def mapName (name : List Char) : Except HostFault (List Char) :=
  if 1024 < name.length then .error .nameTooLong
  else do
    let cs ← mapFrom name 1 name
    .ok (Text.composed cs)

end EntityCatalog.Address
