import EntityCatalog.Value.Display

namespace EntityCatalog.Log

def integerText? : Value → Option String
  | .int n => some (toString n)
  | .bool b => some (if b then "1" else "0")
  | .real x => x.truncate?.map toString
  | _ => none

-- Puts values into their places. There are as many places as values.
def fillIn : List Char → List Value → Option (List Char)
  | [], vs => if vs.isEmpty then some [] else none
  | '%' :: '%' :: cs, vs => (fillIn cs vs).map ('%' :: ·)
  | '%' :: 's' :: cs, v :: vs => (fillIn cs vs).map (v.display.toList ++ ·)
  | '%' :: 'r' :: cs, v :: vs => (fillIn cs vs).map (v.inner.toList ++ ·)
  | '%' :: 'd' :: cs, v :: vs => do
    let text ← integerText? v
    let rest ← fillIn cs vs
    some (text.toList ++ rest)
  | '%' :: _, _ => none
  | c :: cs, vs => (fillIn cs vs).map (c :: ·)

def fill? (template : String) (values : List Value) : Option String :=
  if values.isEmpty then some template else (fillIn template.toList values).map String.ofList

end EntityCatalog.Log
