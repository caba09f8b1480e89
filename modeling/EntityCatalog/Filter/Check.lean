import EntityCatalog.Error
import EntityCatalog.Field.Basic
import EntityCatalog.Filter.Condition

namespace EntityCatalog

def Field.find? (fields : List Field) (name : String) : Option Field :=
  fields.reverse.find? (·.name == name)

namespace Condition

def checkOperator (c : Condition) (f : Field) : Except CatalogError Unit :=
  match f.type with
  | .unknown shown => .error (.unfilterableType f.name shown)
  | .known t =>
    if t.allows c.operator then .ok () else .error (.incompatibleOperator f.name c.operator t)

def check (fields : List Field) (c : Condition) : Except CatalogError Unit :=
  match Field.find? fields c.field with
  | none => .error (.unknownField c.field .filter)
  | some f => c.checkOperator f

-- The first condition that does not fit is told.
def checkAll (fields : List Field) (cs : List Condition) : Except CatalogError Unit :=
  cs.forM (check fields)

end Condition

end EntityCatalog
