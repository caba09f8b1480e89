import EntityCatalog.Toml.Fault
import EntityCatalog.Value

namespace EntityCatalog.Toml

-- Changes the table at a key. Tables are made where there are none; in arrays of tables, if they
-- are entered, the last one is meant.
def alter (lists : Bool) (change : Document → Except Complaint Document) :
    Key → Document → Except Complaint Document
  | [], d => change d
  | part :: key, d =>
    match d.get? part with
    | none => (alter lists change key []).map fun m => d.set part (.object m)
    | some (.object m) => (alter lists change key m).map fun m => d.set part (.object m)
    | some (.list vs) =>
      match lists, vs.getLast? with
      | true, some (.object m) =>
        (alter lists change key m).map fun m => d.set part (.list (vs.dropLast ++ [.object m]))
      | _, _ => .error .overwritten
    | some _ => .error .overwritten

def addMember (name : String) (v : Value) (taken : Complaint) (d : Document) :
    Except Complaint Document :=
  if d.has name then .error taken else .ok (d.set name v)

def addTable (name : String) (d : Document) : Except Complaint Document :=
  match d.get? name with
  | none => .ok (d.set name (.list [.object []]))
  | some (.list vs) => .ok (d.set name (.list (vs ++ [.object []])))
  | some _ => .error .overwritten

structure Sections where
  content : Document := []
  declared : List Key := []
  -- Keys that were passed through in this section; they count as declared in the next ones.
  passed : List Key := []
  closed : List Key := []
  header : Key := []
deriving Repr

namespace Sections

def isDeclared (s : Sections) (key : Key) : Bool := s.declared.contains key

def isClosed (s : Sections) (key : Key) : Bool := s.closed.any (·.isPrefixOf key)

def endSection (s : Sections) : Sections :=
  { s with declared := s.passed ++ s.declared, passed := [] }

def reopen (s : Sections) (key : Key) : Sections :=
  { s with declared := s.declared.filter (!key.isPrefixOf ·)
           closed := s.closed.filter (!key.isPrefixOf ·) }

def beginTable (s : Sections) (key : Key) : Except Complaint Sections :=
  if s.isDeclared key || s.isClosed key then .error (.declaredTwice key)
  else
    (alter true .ok key s.content).map fun content =>
      { s with content, declared := key :: s.declared, header := key }

def beginItem (s : Sections) (key : Key) : Except Complaint Sections :=
  if s.isClosed key then .error (.frozen key)
  else
    let s := s.reopen key
    match key.getLast? with
    | none => .error .overwritten
    | some name =>
      (alter true (addTable name) key.dropLast s.content).map fun content =>
        { s with content, declared := key :: s.declared, header := key }

def isComposite : Value → Bool
  | .object _ | .list _ => true
  | _ => false

def between (s : Sections) (key : Key) : List Key :=
  (List.range (key.length - 1)).map fun i => s.header ++ key.take (i + 1)

def add (s : Sections) (key : Key) (v : Value) : Except Complaint Sections :=
  let between := s.between key
  match between.find? s.isDeclared with
  | some k => .error (.redefined k)
  | none =>
    let outer := s.header ++ key.dropLast
    if s.isClosed outer then .error (.frozen outer)
    else
      match key.getLast? with
      | none => .error .overwritten
      | some name =>
        (alter true (addMember name v .overwritten) outer s.content).map fun content =>
          { s with
            content
            passed := between ++ s.passed
            closed := if isComposite v then (s.header ++ key) :: s.closed else s.closed }

end Sections

end EntityCatalog.Toml
