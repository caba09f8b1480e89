import EntityCatalog.Entity
import EntityCatalog.Query
import EntityCatalog.Store.Selection

namespace EntityCatalog

-- An entity as a row: the fields are the documents that they are written as.
structure EntityRow where
  id : String
  scope : String
  name : String
  tableName : String
  fields : List Value
  createdAt : String
  updatedAt : String
deriving Repr

namespace EntityRow

def fieldDocuments (fields : List Field) : List Value := fields.map fun f => .object f.toDocument

def ofEntity (e : Entity) : EntityRow :=
  { id := e.id, scope := e.scope, name := e.name, tableName := e.tableName,
    fields := fieldDocuments e.fields, createdAt := e.createdAt, updatedAt := e.updatedAt }

def entity (r : EntityRow) : Except Failure Entity := do
  let fields ← Field.readAll r.fields
  .ok { id := r.id, scope := r.scope, name := r.name, tableName := r.tableName, fields,
        createdAt := r.createdAt, updatedAt := r.updatedAt }

end EntityRow

structure RecordRow where
  id : String
  entityId : String
  scope : String
  entityName : String
  data : Document
  createdAt : String
  updatedAt : String
deriving Repr

namespace RecordRow

def toDocument (r : RecordRow) : Document :=
  [("id", .text r.id), ("entity_type", .text r.entityName), ("data", .object r.data),
   ("created_at", .text r.createdAt), ("updated_at", .text r.updatedAt)]

def newerFirst (a b : RecordRow) : Bool :=
  if a.createdAt = b.createdAt then !decide (a.id < b.id) else decide (b.createdAt < a.createdAt)

def inOrder (sort : Option SortKey) (a b : RecordRow) : Bool :=
  match sort with
  | none => newerFirst a b
  | some k =>
    let x := a.data.cell k.field
    let y := b.data.cell k.field
    if x.same y then newerFirst a b
    else
      match k.direction with
      | .ascending => x.lt y
      | .descending => y.lt x

end RecordRow

structure Tables where
  entities : List EntityRow := []
  records : List RecordRow := []
deriving Repr

namespace Tables

def clashes (a b : EntityRow) : Bool :=
  a.id == b.id || (a.scope == b.scope && (a.name == b.name || a.tableName == b.tableName))

def insertEntity (t : Tables) (e : Entity) : Except Failure Tables :=
  let row := EntityRow.ofEntity e
  if t.entities.any (clashes row) then .error .brokenIntegrity
  else .ok { t with entities := t.entities ++ [row] }

def entityRow? (t : Tables) (scope name : String) : Option EntityRow :=
  t.entities.find? fun r => r.scope == scope && r.name == name

def entity? (t : Tables) (scope name : String) : Except Failure (Option Entity) :=
  match t.entityRow? scope name with
  | none => .ok none
  | some r => r.entity.map some

def clash? (t : Tables) (scope name tableName : String) : Option String :=
  ((t.entityRow? scope name).or
    (t.entities.find? fun r => r.scope == scope && r.tableName == tableName)).map (·.name)

def entitiesOf (t : Tables) (scope : String) : Except Failure (List Entity) :=
  ((t.entities.filter (·.scope == scope)).mergeSort fun a b => !decide (b.name < a.name)).mapM
    EntityRow.entity

def allEntities (t : Tables) : Except Failure (List Entity) :=
  (t.entities.mergeSort fun a b =>
    if a.scope = b.scope then !decide (b.name < a.name) else decide (a.scope < b.scope)).mapM
      EntityRow.entity

def setFields (t : Tables) (id : String) (fields : List Field) (at' : String) : Tables :=
  { t with entities := t.entities.map fun r =>
      if r.id == id then { r with fields := EntityRow.fieldDocuments fields, updatedAt := at' }
      else r }

def recordCount (t : Tables) (entityId : String) : Nat :=
  t.records.countP (·.entityId == entityId)

def eraseEntity (t : Tables) (id : String) : Tables :=
  { entities := t.entities.filter (·.id != id), records := t.records.filter (·.entityId != id) }

def insertRecord (t : Tables) (row : RecordRow) : Except Failure Tables :=
  if t.records.any (·.id == row.id) || !t.entities.any (·.id == row.entityId) then
    .error .brokenIntegrity
  else .ok { t with records := t.records ++ [row] }

def recordsOf (t : Tables) (scope entityName : String) : List RecordRow :=
  t.records.filter fun r => r.scope == scope && r.entityName == entityName

def record? (t : Tables) (scope entityName id : String) : Option RecordRow :=
  (t.recordsOf scope entityName).find? (·.id == id)

def setData (t : Tables) (id : String) (data : Document) (at' : String) : Tables :=
  { t with records := t.records.map fun r =>
      if r.id == id then { r with data, updatedAt := at' } else r }

def eraseRecord (t : Tables) (id : String) : Tables :=
  { t with records := t.records.filter (·.id != id) }

def clauseOf (filter : Option Predicate) : Except Failure Clause :=
  match filter with
  | none => .ok (.constant true)
  | some p =>
    match p.clause? with
    | none => .error .unknownPredicate
    | some c =>
      match c.values.findSome? Value.bindFailure? with
      | some f => .error f
      | none => .ok c

-- The clause of a filter as the store takes it. How high its condition is counts before the values
-- in it are looked at.
def prepare (filter : Option Predicate) : Except Failure Clause :=
  if (filter.bind Predicate.clause?).any Clause.isTooHigh then .error .unreadable
  else clauseOf filter

-- The rows that a clause selects.
def selected (c : Clause) : List RecordRow → Except Failure (List RecordRow)
  | [] => .ok []
  | r :: rows => do
    let holds ← c.evaluate r.data false
    let rest ← selected c rows
    return if holds then r :: rest else rest

-- Whether rows can be put into an order.
def canSort (rows : List RecordRow) (sort : Option SortKey) : Bool :=
  rows.all fun r => sort.all fun k => r.data.canRead k.field

def canPage (p : Page) : Bool := isWord p.limit && isWord p.offset

def pageOf {α : Type} (page : Option Page) (rows : List α) : List α :=
  match page with
  | none => rows
  | some p =>
    let rest := rows.drop p.offset.toNat
    if p.limit < 0 then rest else rest.take p.limit.toNat

def find (t : Tables) (scope entityName : String) (filter : Option Predicate)
    (sort : Option SortKey) (page : Option Page) : Except Failure (List RecordRow) := do
  let c ← prepare filter
  if !page.all canPage then .error .overflow
  else
    let rows ← selected c (t.recordsOf scope entityName)
    if canSort rows sort then .ok (pageOf page (rows.mergeSort (RecordRow.inOrder sort)))
    else .error .unreadable

def count (t : Tables) (scope entityName : String) (filter : Option Predicate) :
    Except Failure Nat := do
  let c ← prepare filter
  let rows ← selected c (t.recordsOf scope entityName)
  return rows.length

end Tables

end EntityCatalog
