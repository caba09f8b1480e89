import EntityCatalog.Catalog.Basic

namespace EntityCatalog

def Entity.toDocument (e : Entity) : Document :=
  [("id", .text e.id), ("scope_id", .text e.scope), ("name", .text e.name),
   ("table_name", .text e.tableName),
   ("fields", .list (e.fields.map fun f => .object f.toDocument)),
   ("created_at", .text e.createdAt), ("updated_at", .text e.updatedAt)]

namespace Catalog

def definitionsLog : String := "entityctl.services.definitions"

def cleanName (name : String) : Except Failure String :=
  if name.stripped = "" then .error (.rejected .emptyEntityName) else .ok name.stripped

-- The conflict of a new entity with one that has its name or its table name.
def conflict (existing name tableName : String) : CatalogError :=
  if existing = name then .entityNameTaken name else .tableNameTaken name existing tableName

def withValidator (c : Catalog) (key : EntityKey) (fields : List Field) (o : Outcome)
    (entry : LogEntry) : Outcome :=
  match c.validators.put key fields with
  | .error f => { o with catalog := c, answer := .error f }
  | .ok (_, validators) =>
    { o with catalog := { c with validators }, log := [cachedEntry key, entry] }

def prepare (g : Grant) (scope name : String) (fields : List Field.Source) :
    Except Failure Entity := do
  let name ← cleanName name
  let fields ← Field.readSources fields
  .ok { id := IdKind.definition.idOf g.digits, scope, name,
        tableName := String.ofList (EntityCatalog.tableName name.toList), fields,
        createdAt := g.now.stamp, updatedAt := g.now.stamp }

def define (c : Catalog) (g : Grant) (scope name : String) (fields : List Field.Source) :
    Outcome :=
  let action := "define_entity"
  match prepare g scope name fields with
  | .error f => .failed c action f
  | .ok e =>
    let refused (existing : String) : Outcome :=
      (Outcome.failed c action (.rejected (conflict existing e.name e.tableName))).granted
    match c.tables.clash? scope e.name e.tableName with
    | some existing => refused existing
    | none =>
      match c.tables.insertEntity e with
      | .error .brokenIntegrity => refused e.name
      | .error f => (Outcome.failed c action f).granted
      | .ok tables =>
        withValidator { c with tables } ⟨scope, e.name⟩ e.fields
          (Outcome.told c action e.toDocument).granted
          (.info definitionsLog s!"Defined entity {e.name} in scope {scope}")

def entities (c : Catalog) (scope : String) : Outcome :=
  match c.tables.entitiesOf scope with
  | .error f => { catalog := c, answer := .error f }
  | .ok es =>
    .told c "list_entities"
      [("count", .int es.length), ("items", .list (es.map fun e => .object e.toDocument))]

def entity (c : Catalog) (scope name : String) : Outcome :=
  let action := "get_entity"
  match c.requireEntity scope name with
  | .error f => .failed c action f
  | .ok e => .told c action e.toDocument

def staleWarning (n : Nat) : List String :=
  if n = 0 then []
  else [s!"{n} existing record(s) were not re-validated against the new field list"]

def redefine (c : Catalog) (g : Grant) (scope name : String) (fields : List Field.Source) :
    Outcome :=
  let action := "update_entity"
  match Field.readSources fields with
  | .error f => .failed c action f
  | .ok fields =>
    match c.requireEntity scope name with
    | .error f => (Outcome.failed c action f).timed
    | .ok e =>
      let tables := c.tables.setFields e.id fields g.now.stamp
      let e' := { e with fields, updatedAt := g.now.stamp }
      let o := withValidator { c with tables } ⟨scope, e.name⟩ fields
        (Outcome.told c action e'.toDocument).timed
        (.info definitionsLog s!"Updated entity {e.name} in scope {scope}")
      { o with answer := o.answer.map fun r =>
          { r with warnings := staleWarning (tables.recordCount e.id) } }

def drop (c : Catalog) (scope name : String) : Outcome :=
  let action := "delete_entity"
  match c.requireEntity scope name with
  | .error f => .failed c action f
  | .ok e =>
    let n := c.tables.recordCount e.id
    let key : EntityKey := ⟨scope, e.name⟩
    let c := { c with tables := c.tables.eraseEntity e.id, validators := c.validators.erase key }
    (Outcome.told c action [("name", .text e.name), ("records_deleted", .int n)]).logged
      [forgottenEntry key,
       .info definitionsLog s!"Deleted entity {e.name} ({n} records) in scope {scope}"]

end Catalog

end EntityCatalog
