import EntityCatalog.Catalog.Basic
import EntityCatalog.Listing
import EntityCatalog.Predicate.Tree

namespace EntityCatalog

namespace Catalog

def recordsLog : String := "entityctl.services.records"

def validatorOf (c : Catalog) (e : Entity) :
    Except Failure (Validator × Catalog) × List LogEntry :=
  let key : EntityKey := ⟨e.scope, e.name⟩
  let kept := (c.validators.get? key).any fun v => Field.sameAll v.fields e.fields
  match c.validators.getOrCreate key e.fields with
  | .error f => (.error f, [])
  | .ok (v, validators) =>
    (.ok (v, { c with validators }), if kept then [] else [cachedEntry key])

def requireRecord (c : Catalog) (e : Entity) (id : String) : Except Failure RecordRow :=
  match c.tables.record? e.scope e.name id with
  | some r => .ok r
  | none => .error (.rejected (.recordNotFound e.name id))

def create (c : Catalog) (g : Grant) (scope name : String) (data : Value) : Outcome :=
  let action := "create_record"
  match c.requireEntity scope name with
  | .error f => .failed c action f
  | .ok e =>
    match c.validatorOf e with
    | (.error f, log) => (Outcome.failed c action f).logged log
    | (.ok (v, c), log) =>
      match v.apply .whole data with
      | .error f => (Outcome.failed c action f).logged log
      | .ok clean =>
        let row : RecordRow :=
          { id := IdKind.record.idOf g.digits, entityId := e.id, scope, entityName := e.name,
            data := clean, createdAt := g.now.stamp, updatedAt := g.now.stamp }
        match c.tables.insertRecord row with
        | .error f => ((Outcome.failed c action f).granted).logged log
        | .ok tables =>
          ((Outcome.told { c with tables } action row.toDocument).granted).logged
            (log ++ [.debug recordsLog s!"Created {e.name} record {row.id}"])

def get (c : Catalog) (scope name id : String) : Outcome :=
  let action := "get_record"
  match (do c.requireRecord (← c.requireEntity scope name) id) with
  | .error f => .failed c action f
  | .ok r => .told c action r.toDocument

def fetch (c : Catalog) (e : Entity) (q : Query) : Except Failure (List RecordRow × Nat) := do
  let rows ← c.tables.find e.scope e.name q.filter q.sort q.page
  match q.page with
  | none => .ok (rows, rows.length)
  | some _ => .ok (rows, ← c.tables.count e.scope e.name q.filter)

def tracedParse (c : Catalog) (e : Entity) (asked : QueryText) : Trace Query :=
  Trace.span "parse_query" fun opened => do
    let q ← Query.parse e.fields c.limits asked
    if opened then
      if let some p := q.filter then Trace.note "filters" p.toValue
    return q

def tracedFetch (c : Catalog) (e : Entity) (q : Query) : Trace (List RecordRow × Nat) :=
  Trace.span "fetch" fun opened => do
    let (rows, total) ← c.fetch e q
    if opened then Trace.note "rows" (.int rows.length)
    return (rows, total)

-- The rows that a query asks for, with the query as it was read, and how many there are on all
-- pages.
def query (c : Catalog) (scope name : String) (asked : QueryText) :
    Trace (Query × List RecordRow × Nat) := do
  let e ← c.requireEntity scope name
  if (← Trace.current?).isSome then
    Trace.note "scope" (.text scope)
    Trace.note "entity" (.text e.name)
  let q ← c.tracedParse e asked
  let (rows, total) ← c.tracedFetch e q
  return (q, rows, total)

def listed (c : Catalog) (found : Except Failure (Query × List RecordRow × Nat)) : Outcome :=
  let action := "list_records"
  match found with
  | .error f => .failed c action f
  | .ok (q, rows, total) =>
    match Listing.pageInfo total q.page with
    | .error _ => { catalog := c, answer := .error .overflow }
    | .ok info =>
      let items := rows.map fun r => Listing.project q.select r.toDocument
      let o := Outcome.told c action
        [("count", .int items.length), ("items", .list (items.map .object))]
      { o with answer := o.answer.map fun r => { r with extras := some info } }

def list (c : Catalog) (scope name : String) (asked : QueryText) : StateM Telemetry Outcome :=
  return c.listed (← (c.query scope name asked).run)

def update (c : Catalog) (g : Grant) (scope name id : String) (data : Value) : Outcome :=
  let action := "update_record"
  match (do
    let e ← c.requireEntity scope name
    .ok (e, ← c.requireRecord e id)) with
  | .error f => .failed c action f
  | .ok (e, r) =>
    match c.validatorOf e with
    | (.error f, log) => (Outcome.failed c action f).logged log
    | (.ok (v, c), log) =>
      match v.apply .changes data with
      | .error f => (Outcome.failed c action f).logged log
      | .ok changes =>
        let r := { r with data := r.data.merge changes, updatedAt := g.now.stamp }
        let names := changes.keys.mergeSort fun a b => !decide (b < a)
        let c := { c with tables := c.tables.setData id r.data r.updatedAt }
        ((Outcome.told c action
          (r.toDocument ++ [("fields_changed", .list (names.map .text))])).timed).logged log

def delete (c : Catalog) (scope name id : String) : Outcome :=
  let action := "delete_record"
  match (do c.requireRecord (← c.requireEntity scope name) id) with
  | .error f => .failed c action f
  | .ok r =>
    .told { c with tables := c.tables.eraseRecord id } action
      [("id", .text id), ("entity_type", .text r.entityName)]

end Catalog

end EntityCatalog
