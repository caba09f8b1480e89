import EntityCatalog.Error
import EntityCatalog.Json.Writer
import EntityCatalog.Value.Display
import EntityCatalog.Value.Plain

namespace EntityCatalog

structure Rejection where
  code : String
  message : String
  detail : Document := []
deriving Repr

def Rejection.ofError (e : CatalogError) : Rejection := ⟨e.code, e.message, e.detail⟩

structure Reply where
  ok : Bool
  action : String
  data : Document := []
  warnings : List String := []
  rejection : Option Rejection := none
  extras : Option Document := none
deriving Repr

namespace Reply

def rejected (action : String) (e : CatalogError) : Reply :=
  { ok := false, action, rejection := some (.ofError e) }

def toDocument (r : Reply) : Document :=
  [("ok", .bool r.ok), ("op", .text r.action), ("data", .object r.data),
   ("warnings", .list (r.warnings.map .text)),
   ("error", match r.rejection with
     | some e =>
       .object [("code", .text e.code), ("message", .text e.message), ("detail", .object e.detail)]
     | none => .null),
   ("meta", match r.extras with
     | some m => .object m
     | none => .null)]

def toJson (r : Reply) : String := ((Value.object r.toDocument).plain).toJson .pretty

def itemKey? : Value → Option String
  | .object item =>
    let item : Document := item
    match item.get? (if item.has "table_name" then "name" else "id") with
    | none | some .null => none
    | some v => if v.display = "" then none else some v.display
  | _ => none

def brief (r : Reply) : String :=
  if r.ok then
    match r.data.get? "items" with
    | some (.list items) => "\n".intercalate (items.filterMap itemKey?)
    | _ => "OK: " ++ r.action
  else s!"ERROR: {r.action} — " ++ ((r.rejection.map (·.message)).getD "Unknown error")

end Reply

end EntityCatalog
