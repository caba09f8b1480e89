import EntityCatalog.Error
import EntityCatalog.Filter.Condition
import EntityCatalog.Filter.Shape
import EntityCatalog.Text.Split

namespace EntityCatalog

def Operator.ofWord? (cs : List Char) : Option (Operator × Value) :=
  if cs = "true".toList then some (.isTrue, .bool true)
  else if cs = "false".toList then some (.isFalse, .bool false)
  else if cs = "null".toList then some (.isNull, .null)
  else if cs = "notnull".toList then some (.isNotNull, .null)
  else none

-- The operators in front of a value, in the order in which they are tried.
def Operator.leading : List Operator :=
  [.greaterOrEqual, .lessOrEqual, .startsWith, .endsWith, .notEquals, .contains, .greater, .less,
    .equals]

namespace Condition

def tokens? (opening cs : List Char) : Option (List (List Char)) :=
  if cs.getLast? = some ']' then
    (Text.after? opening cs).map fun rest => (Text.splitOn ',' rest.dropLast).map Text.strip
  else none

def ofTokens (field : String) (operator : Operator) (tokens : List (List Char)) : Condition :=
  ⟨field, operator, .list (tokens.map Shape.value), .tokens (tokens.map String.ofList)⟩

def ofText (field : String) (operator : Operator) (cs : List Char) : Condition :=
  ⟨field, operator, Shape.value cs, .text (String.ofList cs)⟩

def ofOperatorValue (field : String) (cs : List Char) : Condition :=
  match Operator.ofWord? cs with
  | some (operator, value) => ⟨field, operator, value, .nothing⟩
  | none =>
    match tokens? "in[".toList cs with
    | some ts => ofTokens field .anyOf ts
    | none =>
      match tokens? "nin[".toList cs with
      | some ts => ofTokens field .noneOf ts
      | none =>
        let lead? := Operator.leading.findSome? fun o =>
          (Text.after? o.token.toList cs).map (o, ·)
        match lead? with
        | some (operator, rest) => ofText field operator rest
        | none => ofText field .equals cs

def parse (fragment : List Char) : Except CatalogError Condition :=
  let flaw (f : FilterFlaw) : Except CatalogError Condition :=
    .error (.malformedFilter (String.ofList fragment) f)
  match Text.cutAt ':' fragment with
  | none => flaw .noColon
  | some ([], _) => flaw .noField
  | some (_, []) => flaw .noOperator
  | some (field, rest) => .ok (ofOperatorValue (String.ofList field) rest)

def parseAll (search : List Char) : Except CatalogError (List Condition) :=
  if search.all Text.isBlank then .ok []
  else ((Text.splitOn ';' search).map Text.strip).mapM parse

end Condition

end EntityCatalog
