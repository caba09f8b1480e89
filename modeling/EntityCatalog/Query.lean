import EntityCatalog.Filter.Parser
import EntityCatalog.Predicate.Compile

namespace EntityCatalog

inductive Direction where
  | ascending
  | descending
deriving DecidableEq, Repr

namespace Direction

def token : Direction → String
  | ascending => "asc"
  | descending => "desc"

def ofToken? (s : String) : Option Direction :=
  if s = "asc" then some ascending else if s = "desc" then some descending else none

end Direction

structure SortKey where
  field : String
  direction : Direction
deriving DecidableEq, Repr

-- A page of a list: its number, its length and the number of rows before it.
structure Page where
  number : Int
  limit : Int
  offset : Int
deriving DecidableEq, Repr

structure PageLimits where
  usual : Int := 50
  largest : Int := 100
deriving DecidableEq, Repr

structure QueryText where
  search : Option String := none
  sort : Option String := none
  page : Option Int := none
  limit : Option Int := none
  select : Option String := none
deriving DecidableEq, Repr, Inhabited

structure Query where
  filter : Option Predicate := none
  sort : Option SortKey := none
  page : Option Page := none
  select : List String := []
deriving Repr, Inhabited

namespace SortKey

def parse (fields : List Field) (directive : String) : Except CatalogError SortKey :=
  match Text.splitOn ':' directive.toList with
  | [name, direction] =>
    let name := String.ofList name
    match Direction.ofToken? (String.ofList (Text.lower direction)) with
    | none => .error (.invalidDirection (String.ofList direction))
    | some d =>
      if fields.any (·.name == name) then .ok ⟨name, d⟩ else .error (.unknownField name .sort)
  | _ => .error (.malformedSort directive)

end SortKey

namespace Page

-- The page that a request asks for, moved into the range of pages and lengths.
def ofRequest (limits : PageLimits) (page limit : Option Int) : Page :=
  let number := max 1 (page.getD 1)
  let rows := min (max 1 (limit.getD limits.usual)) limits.largest
  ⟨number, rows, (number - 1) * rows⟩

end Page

namespace Query

def addName (names : List String) (name : String) : List String :=
  if names.contains name then names else names ++ [name]

def parseSelect (fields : List Field) (select : String) : Except CatalogError (List String) :=
  let names := (Text.splitOn ',' select.toList).map fun cs => String.ofList (Text.strip cs)
  match names.find? fun n => !fields.any (·.name == n) with
  | some n => .error (.unknownField n .select)
  | none => .ok (names.foldl addName [])

def parseSearch (fields : List Field) (search : String) : Except Failure Predicate := do
  let conditions ← Failure.lift (Condition.parseAll search.toList)
  Failure.lift (Condition.checkAll fields conditions)
  match Condition.compileAll? fields conditions with
  | some p => .ok p
  | none => .error .overflow

def given? (s : Option String) : Option String := s.filter (· ≠ "")

def parse (fields : List Field) (limits : PageLimits) (q : QueryText) : Except Failure Query := do
  let filter ← (given? q.search).mapM (parseSearch fields)
  let sort ← Failure.lift ((given? q.sort).mapM (SortKey.parse fields))
  let page := if q.page.isSome || q.limit.isSome then
    some (Page.ofRequest limits q.page q.limit) else none
  let select ← match q.select with
    | some s =>
      if s.toList.all Text.isBlank then .ok [] else Failure.lift (parseSelect fields s)
    | none => .ok []
  .ok { filter, sort, page, select }

end Query

end EntityCatalog
