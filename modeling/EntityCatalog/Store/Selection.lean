import EntityCatalog.Error
import EntityCatalog.Store.Clause

namespace EntityCatalog.Predicate

def guardKinds : Value → List Kind
  | .bool b => [.truth b]
  | .int _ | .real _ => [.integer, .real]
  | _ => [.text]

def sameClause (path : String) (v : Value) : Clause :=
  match v with
  | .bool _ => .isKind path (guardKinds v)
  | _ => .allOf [.isKind path (guardKinds v), .equals path v]

-- The pattern of a search: the text stands for itself, in lower case.
def searchPattern (part : Part) (text : List Char) : List Char :=
  let literal := Like.escape text
  Text.lower (match part with
    | .anywhere => '%' :: literal ++ ['%']
    | .start => literal ++ ['%']
    | .end => '%' :: literal)

def likeClause (part : Part) (path : String) (v : Value) : Clause :=
  .allOf [.isKind path [.text], .like path (searchPattern part v.display.toList)]

def orderClause (order : Comparison) (path : String) (v : Value) : Clause :=
  if v.isBool then .constant false
  else .allOf [.isKind path (guardKinds v), .compares order path v]

mutual

def clause? : Predicate → Option Clause
  | .always => some (.constant true)
  | .all ps => (clauses? ps).map Clause.allOf
  | .any ps => (clauses? ps).map Clause.anyOf
  | .equals path v => some (sameClause path v)
  | .notEquals path v => some (.allOf [.isPresent path, .negated (sameClause path v)])
  | .contains part path v => some (likeClause part path v)
  | .compares order path v => some (orderClause order path v)
  | .anyOf path vs => some (.anyOf (vs.map (sameClause path)))
  | .noneOf path vs =>
    some (.allOf (.isPresent path :: vs.map fun v => .negated (sameClause path v)))
  | .absent path => some (.isNull path)
  | .present path => some (.isPresent path)
  | .foreignEquals .. => none

def clauses? : List Predicate → Option (List Clause)
  | [] => some []
  | p :: ps =>
    match clause? p, clauses? ps with
    | some c, some cs => some (c :: cs)
    | _, _ => none

end

end EntityCatalog.Predicate

namespace EntityCatalog

def Value.bindFailure? : Value → Option Failure
  | .int n => if isWord n then none else some .overflow
  | .list _ | .object _ => some .unknownValue
  | _ => none

end EntityCatalog
