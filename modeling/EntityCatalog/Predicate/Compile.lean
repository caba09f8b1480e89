import EntityCatalog.Filter.Check
import EntityCatalog.Predicate.Basic

namespace EntityCatalog

def Value.canonical? : Value → Option Value
  | .date d => some (.text (String.ofList (Moment.midnight d).localText))
  | .moment m => m.canonical?.map fun cs => .text (String.ofList cs)
  | v => some v

def Value.retyped? (type : DeclaredType) (typed : Option String) (v : Value) : Option Value :=
  if type.isTextual then
    some (match typed with
      | some s => .text s
      | none => v)
  else v.canonical?

namespace Condition

def withTokens : List Value → List String → List (Value × Option String)
  | [], _ => []
  | v :: vs, [] => (v, none) :: withTokens vs []
  | v :: vs, t :: ts => (v, some t) :: withTokens vs ts

def listValues (c : Condition) : List (Value × Option String) :=
  match c.value with
  | .list vs => withTokens vs c.typed.tokenList
  | _ => []

def compile? (type : DeclaredType) (c : Condition) : Option Predicate :=
  let value? := c.value.retyped? type c.typed.text?
  let values? := c.listValues.mapM fun (v, t) => v.retyped? type t
  match c.operator with
  | .isNull => some (.absent c.field)
  | .isNotNull => some (.present c.field)
  | .isTrue => some (.equals c.field (.bool true))
  | .isFalse => some (.equals c.field (.bool false))
  | .anyOf => values?.map (.anyOf c.field)
  | .noneOf => values?.map (.noneOf c.field)
  | .equals => value?.map (.equals c.field)
  | .notEquals => value?.map (.notEquals c.field)
  | .contains => value?.map (.contains .anywhere c.field)
  | .startsWith => value?.map (.contains .start c.field)
  | .endsWith => value?.map (.contains .end c.field)
  | .less => value?.map (.compares .less c.field)
  | .lessOrEqual => value?.map (.compares .lessOrEqual c.field)
  | .greater => value?.map (.compares .greater c.field)
  | .greaterOrEqual => value?.map (.compares .greaterOrEqual c.field)

-- The type of the field that a condition is on; a field that is not declared holds text.
def typeIn (fields : List Field) (c : Condition) : DeclaredType :=
  match Field.find? fields c.field with
  | some f => f.type
  | none => .known .string

def compileAll? (fields : List Field) (cs : List Condition) : Option Predicate :=
  match cs with
  | [] => some .always
  | cs => (cs.mapM fun c : Condition => c.compile? (c.typeIn fields)).map .all

end Condition

end EntityCatalog
