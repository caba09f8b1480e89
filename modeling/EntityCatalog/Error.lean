import EntityCatalog.Filter.Operator
import EntityCatalog.Text.Quoted
import EntityCatalog.Value

namespace EntityCatalog

inductive FilterFlaw where
  | noColon
  | noField
  | noOperator
deriving DecidableEq, Repr

def FilterFlaw.text : FilterFlaw → String
  | noColon => "Expected format: field:operatorValue"
  | noField => "Field name is empty"
  | noOperator => "Operator and value are empty"

inductive QueryPart where
  | filter
  | sort
  | select
deriving DecidableEq, Repr

def QueryPart.text : QueryPart → String
  | filter => "filter"
  | sort => "sort"
  | select => "select"

structure Problem where
  place : String
  message : String
deriving DecidableEq, Repr

def Problem.root : String := "_root"

def Problem.text (p : Problem) : String :=
  if p.place = "" then p.message else p.place ++ ": " ++ p.message

inductive CatalogError where
  | malformedFilter (fragment : String) (flaw : FilterFlaw)
  | malformedSort (directive : String)
  | unknownField (field : String) (part : QueryPart)
  | incompatibleOperator (field : String) (operator : Operator) (type : FieldType)
  | invalidDirection (direction : String)
  | invalidField (position : Nat) (problems : List Problem)
  | duplicateField (field : String)
  | unfilterableType (field type : String)
  | unknownType (field type : String)
  | emptyEntityName
  | invalidRecord (problems : List Problem)
  | entityNotFound (scope entity : String)
  | recordNotFound (entity id : String)
  | entityNameTaken (entity : String)
  | tableNameTaken (entity existing tableName : String)
deriving DecidableEq, Repr

namespace CatalogError

def code : CatalogError → String
  | malformedFilter .. => "MALFORMED_FILTER"
  | malformedSort _ => "MALFORMED_SORT"
  | unknownField .. => "UNKNOWN_FIELD"
  | incompatibleOperator .. => "INCOMPATIBLE_OPERATOR"
  | invalidDirection _ => "INVALID_SORT_DIRECTION"
  | invalidField .. | duplicateField _ | unfilterableType .. | unknownType .. | emptyEntityName =>
    "INVALID_SCHEMA"
  | invalidRecord _ => "VALIDATION_FAILED"
  | entityNotFound .. | recordNotFound .. => "NOT_FOUND"
  | entityNameTaken _ | tableNameTaken .. => "CONFLICT"

def places (problems : List Problem) : List String :=
  ((problems.map (·.place)).eraseDups).mergeSort fun a b => a ≤ b

def message : CatalogError → String
  | malformedFilter fragment flaw =>
    s!"Invalid filter format: {fragment.inQuotes}. {flaw.text}"
  | malformedSort directive =>
    s!"Invalid sort format: {directive.inQuotes}. Expected: field:direction (e.g. name:asc)"
  | unknownField field part => s!"Unknown {part.text} field: {field}"
  | incompatibleOperator field operator type =>
    s!"Operator {operator.token} not supported for {type.token} field: {field}"
  | invalidDirection direction =>
    s!"Invalid sort direction: {direction.inQuotes}. Use \"asc\" or \"desc\""
  | invalidField position problems =>
    s!"Invalid field definition at position {position}: " ++
      "; ".intercalate (problems.map Problem.text)
  | duplicateField field => "Duplicate field name: " ++ field
  | unfilterableType field type | unknownType field type =>
    s!"Unknown field type: {type} for field: {field}"
  | emptyEntityName => "Entity name must not be empty"
  | invalidRecord problems => "Validation failed: " ++ ", ".intercalate (places problems)
  | entityNotFound _ entity => s!"Entity definition '{entity}' not found"
  | recordNotFound entity id => s!"No {entity} record found with ID '{id}'"
  | entityNameTaken entity => s!"Entity with name \"{entity}\" already exists"
  | tableNameTaken _ existing tableName =>
    s!"Entity \"{existing}\" already uses table name \"{tableName}\""

def detail : CatalogError → Document
  | malformedFilter fragment _ => [("fragment", .text fragment)]
  | malformedSort directive => [("directive", .text directive)]
  | unknownField field part => [("field", .text field), ("context", .text part.text)]
  | incompatibleOperator field operator type =>
    [("field", .text field), ("operator", .text operator.token), ("field_type", .text type.token)]
  | invalidDirection direction => [("direction", .text direction)]
  | invalidField position _ => [("position", .int position)]
  | duplicateField field => [("field", .text field)]
  | unfilterableType field type => [("field", .text field), ("field_type", .text type)]
  | unknownType field _ => [("field", .text field)]
  | emptyEntityName => []
  | invalidRecord problems =>
    [("errors", .list (problems.map fun p =>
      .object [("field", .text p.place), ("message", .text p.message)]))]
  | entityNotFound scope entity => [("scope_id", .text scope), ("entity", .text entity)]
  | recordNotFound entity id => [("entity", .text entity), ("id", .text id)]
  | entityNameTaken entity => [("entity", .text entity)]
  | tableNameTaken entity existing tableName =>
    [("entity", .text entity), ("existing", .text existing), ("table_name", .text tableName)]

end CatalogError

-- Why an operation comes to no result.
inductive Failure where
  | rejected (error : CatalogError)
  | overflow
  | limitOutOfRange
  | brokenPattern
  | brokenIntegrity
  | unknownPredicate
  | unknownValue
  | unreadable
deriving Repr

instance : Coe CatalogError Failure := ⟨.rejected⟩

def Failure.message : Failure → String
  | .rejected e => e.message
  | .overflow => "A number or a moment is out of range"
  | .limitOutOfRange => "A length limit is out of range"
  | .brokenPattern => "The pattern of a field is none"
  | .brokenIntegrity => "A row refers to nothing, or its key is in use"
  | .unknownPredicate => "The store does not know a predicate"
  | .unknownValue => "The store does not know a kind of value"
  | .unreadable => "The store cannot read a document"

def Failure.lift {α : Type} : Except CatalogError α → Except Failure α
  | .ok a => .ok a
  | .error e => .error (.rejected e)

end EntityCatalog
