import EntityCatalog.Json.Reader
import EntityCatalog.Json.Writer
import EntityCatalog.Store.Tables

namespace EntityCatalog

def EntityRow.toValue (r : EntityRow) : Value :=
  .list [.text r.id, .text r.scope, .text r.name, .text r.tableName, .list r.fields,
    .text r.createdAt, .text r.updatedAt]

def EntityRow.ofValue? : Value → Option EntityRow
  | .list [.text id, .text scope, .text name, .text tableName, .list fields, .text createdAt,
      .text updatedAt] => some { id, scope, name, tableName, fields, createdAt, updatedAt }
  | _ => none

def RecordRow.toValue (r : RecordRow) : Value :=
  .list [.text r.id, .text r.entityId, .text r.scope, .text r.entityName, .object r.data,
    .text r.createdAt, .text r.updatedAt]

def RecordRow.ofValue? : Value → Option RecordRow
  | .list [.text id, .text entityId, .text scope, .text entityName, .object data,
      .text createdAt, .text updatedAt] =>
    some { id, entityId, scope, entityName, data, createdAt, updatedAt }
  | _ => none

namespace Tables

def text (t : Tables) : String :=
  (Value.object [("entities", .list (t.entities.map EntityRow.toValue)),
    ("records", .list (t.records.map RecordRow.toValue))]).toJson .stored

def ofText? (s : String) : Option Tables :=
  match Json.read s with
  | .ok (.object [("entities", .list es), ("records", .list rs)]) => do
    some { entities := ← es.mapM EntityRow.ofValue?, records := ← rs.mapM RecordRow.ofValue? }
  | _ => none

end Tables

theorem EntityRow.ofValue?_toValue (r : EntityRow) : ofValue? r.toValue = some r := rfl

theorem RecordRow.ofValue?_toValue (r : RecordRow) : ofValue? r.toValue = some r := rfl

end EntityCatalog
