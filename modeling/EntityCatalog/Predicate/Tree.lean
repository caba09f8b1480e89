import EntityCatalog.Predicate.Basic

namespace EntityCatalog

def Part.name : Part → String
  | .anywhere => "contains"
  | .start => "starts_with"
  | .end => "ends_with"

def Comparison.name : Comparison → String
  | .less => "less_than"
  | .lessOrEqual => "less_or_equal"
  | .greater => "greater_than"
  | .greaterOrEqual => "greater_or_equal"

namespace Predicate

def leaf (op path : String) (rest : Document) : Value :=
  .object ([("op", .text op), ("path", .text path)] ++ rest)

mutual

def toValue : Predicate → Value
  | .always => .object [("op", .text "match_all")]
  | .all ps => .object [("op", .text "and"), ("children", .list (toValues ps))]
  | .any ps => .object [("op", .text "or"), ("children", .list (toValues ps))]
  | .equals path v | .foreignEquals path v => leaf "equals" path [("value", v)]
  | .notEquals path v => leaf "not_equals" path [("value", v)]
  | .contains part path v => leaf part.name path [("value", v)]
  | .compares order path v => leaf order.name path [("value", v)]
  | .anyOf path vs => leaf "any_of" path [("values", .list vs)]
  | .noneOf path vs => leaf "none_of" path [("values", .list vs)]
  | .absent path => leaf "absent_or_null" path []
  | .present path => leaf "present" path []

def toValues : List Predicate → List Value
  | [] => []
  | p :: ps => p.toValue :: toValues ps

end

end Predicate

end EntityCatalog
