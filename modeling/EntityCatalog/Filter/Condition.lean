import EntityCatalog.Filter.Operator
import EntityCatalog.Value

namespace EntityCatalog

inductive Typed where
  | nothing
  | text (s : String)
  | tokens (ts : List String)
deriving DecidableEq, Repr, Inhabited

namespace Typed

def text? : Typed → Option String
  | text s => some s
  | _ => none

def tokenList : Typed → List String
  | tokens ts => ts
  | _ => []

end Typed

-- One condition: its value by shape, and the text it was read from.
structure Condition where
  field : String
  operator : Operator
  value : Value
  typed : Typed := .nothing
deriving Repr, Inhabited

end EntityCatalog
