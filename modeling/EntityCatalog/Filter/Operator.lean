import EntityCatalog.Field.Type

namespace EntityCatalog

inductive Operator where
  | equals
  | notEquals
  | contains
  | startsWith
  | endsWith
  | less
  | lessOrEqual
  | greater
  | greaterOrEqual
  | anyOf
  | noneOf
  | isTrue
  | isFalse
  | isNull
  | isNotNull
deriving DecidableEq, Repr, Inhabited

namespace Operator

def all : List Operator :=
  [equals, notEquals, contains, startsWith, endsWith, less, lessOrEqual, greater, greaterOrEqual,
    anyOf, noneOf, isTrue, isFalse, isNull, isNotNull]

def token : Operator → String
  | equals => "eq"
  | notEquals => "ne"
  | contains => "lk"
  | startsWith => "sw"
  | endsWith => "ew"
  | less => "lt"
  | lessOrEqual => "lte"
  | greater => "gt"
  | greaterOrEqual => "gte"
  | anyOf => "in"
  | noneOf => "nin"
  | isTrue => "true"
  | isFalse => "false"
  | isNull => "null"
  | isNotNull => "notnull"

def ofToken? (s : String) : Option Operator := all.find? (·.token == s)

theorem ofToken?_token (o : Operator) : ofToken? o.token = some o := by
  cases o <;> decide

end Operator

-- The operators of a type: parts of texts, order of numbers and dates, truth of booleans.
def FieldType.allows (t : FieldType) : Operator → Bool
  | .equals | .notEquals | .isNull | .isNotNull => true
  | .contains | .startsWith | .endsWith => t.isTextual
  | .less | .lessOrEqual | .greater | .greaterOrEqual => t == .number || t == .date
  | .anyOf | .noneOf => t != .boolean
  | .isTrue | .isFalse => t == .boolean

end EntityCatalog
