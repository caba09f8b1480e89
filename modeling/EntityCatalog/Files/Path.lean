import EntityCatalog.Text.Split

namespace EntityCatalog

structure Path where
  root : String := ""
  parts : List String := []
deriving DecidableEq, Repr, Inhabited

namespace Path

-- Three or more slashes at the beginning mean the same as one.
def rootOf (slashes : Nat) : String :=
  match slashes with
  | 0 => ""
  | 2 => "//"
  | _ => "/"

def ofText (s : String) : Path :=
  let cs := s.toList
  let parts := (Text.splitOn '/' cs).map String.ofList
  ⟨rootOf (cs.takeWhile (· == '/')).length, parts.filter fun p => p ≠ "" && p ≠ "."⟩

def text (p : Path) : String :=
  if p.root = "" && p.parts.isEmpty then "." else p.root ++ "/".intercalate p.parts

def isAbsolute (p : Path) : Bool := p.root ≠ ""

def join (p q : Path) : Path := if q.isAbsolute then q else ⟨p.root, p.parts ++ q.parts⟩

def parent (p : Path) : Path := { p with parts := p.parts.dropLast }

def ancestors (p : Path) : List Path :=
  (List.range p.parts.length).map fun i => { p with parts := p.parts.take (p.parts.length - 1 - i) }

def withoutSteps (parts : List String) : List String :=
  parts.foldl (fun done p => if p = ".." then done.dropLast else done ++ [p]) []

def resolve (folder p : Path) : Path :=
  let q := folder.join p
  { q with parts := withoutSteps q.parts }

end Path

end EntityCatalog
