import EntityCatalog.Catalog.Entities
import EntityCatalog.Catalog.Records

namespace EntityCatalog

inductive Request where
  | define (scope name : String) (fields : List Field.Source)
  | entities (scope : String)
  | entity (scope name : String)
  | redefine (scope name : String) (fields : List Field.Source)
  | drop (scope name : String)
  | create (scope name : String) (data : Value)
  | get (scope name id : String)
  | list (scope name : String) (asked : QueryText)
  | update (scope name id : String) (data : Value)
  | delete (scope name id : String)
deriving Repr

namespace Request

def spanName : Request → String
  | define .. => "DefinitionService.define"
  | entities .. => "DefinitionService.list"
  | entity .. => "DefinitionService.get"
  | redefine .. => "DefinitionService.update"
  | drop .. => "DefinitionService.delete"
  | create .. => "RecordService.create"
  | get .. => "RecordService.get"
  | list .. => "RecordService.list"
  | update .. => "RecordService.update"
  | delete .. => "RecordService.delete"

def run (r : Request) (c : Catalog) (g : Grant) : StateM Telemetry Outcome :=
  match r with
  | define scope name fields => return c.define g scope name fields
  | entities scope => return c.entities scope
  | entity scope name => return c.entity scope name
  | redefine scope name fields => return c.redefine g scope name fields
  | drop scope name => return c.drop scope name
  | create scope name data => return c.create g scope name data
  | get scope name id => return c.get scope name id
  | list scope name asked => c.list scope name asked
  | update scope name id data => return c.update g scope name id data
  | delete scope name id => return c.delete scope name id

end Request

def Reply.withSpan (timer : Timer) (s : Span) (r : Reply) : Reply :=
  { r with extras := some (Document.set (r.extras.getD []) "telemetry" (s.toValue timer)) }

def Span.entry (timer : Timer) (ok : Bool) (s : Span) : LogEntry :=
  { logger := "entityctl.telemetry", severity := .debug, event := "span.complete",
    values := [("span_name", .text s.name),
      ("duration_ms", .real (milliseconds (s.duration timer))), ("ok", .bool ok),
      ("children", .int s.children.length)] }

-- The outcome with the times of the span that it was come to in.
def Outcome.withSpan (timer : Timer) (s : Span) (o : Outcome) : Outcome :=
  let ok := match o.answer with
    | .ok r => r.ok
    | .error _ => false
  { o with answer := o.answer.map (Reply.withSpan timer s), log := o.log ++ [s.entry timer ok] }

-- Does work in a span of its own if there is a timer. The span ends, and the one before is the
-- current one again, whether or not there is a reply to tell of it.
def Outcome.traced (name : String) (work : StateM Telemetry Outcome) :
    StateM Telemetry Outcome := do
  match (← get).timer? with
  | none => work
  | some timer =>
    let aside := (← get).tracer.running
    modify (·.enterRoot name)
    let o ← work
    modify (·.leaveRoot aside)
    return match (← get).tracer.finished.getLast? with
      | none => o
      | some s => o.withSpan timer s

def Request.traced (r : Request) (c : Catalog) (g : Grant) : StateM Telemetry Outcome :=
  Outcome.traced r.spanName (r.run c g)

-- Answers a request while no span is open, and tells how many readings were taken by then.
def Request.answer (timer? : Option Timer) (readings : Nat) (r : Request) (c : Catalog)
    (g : Grant) : Outcome × Nat :=
  let (o, t) := (r.traced c g).run { timer?, tracer := { readings } }
  (o, t.tracer.readings)

end EntityCatalog
