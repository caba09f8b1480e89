import EntityCatalog.Log.Entry
import EntityCatalog.Reply
import EntityCatalog.Store.Tables
import EntityCatalog.Telemetry.Trace
import EntityCatalog.Validation.Cache

namespace EntityCatalog

def Moment.stamp (m : Moment) : String := String.ofList (m.fullText ++ Moment.offsetText 0)

structure Catalog where
  tables : Tables := {}
  validators : ValidatorCache := {}
  limits : PageLimits := {}

-- What an operation may take from the world.
structure Grant where
  digits : String
  now : Moment

structure Outcome where
  catalog : Catalog
  answer : Except Failure Reply
  tookDigits : Bool := false
  tookTime : Bool := false
  log : List LogEntry := []

namespace Outcome

def failed (c : Catalog) (action : String) (f : Failure) : Outcome :=
  match f with
  | .rejected e => { catalog := c, answer := .ok (.rejected action e) }
  | f => { catalog := c, answer := .error f }

def told (c : Catalog) (action : String) (data : Document) : Outcome :=
  { catalog := c, answer := .ok { ok := true, action, data } }

def timed (o : Outcome) : Outcome := { o with tookTime := true }

def granted (o : Outcome) : Outcome := { o with tookDigits := true, tookTime := true }

def logged (o : Outcome) (entries : List LogEntry) : Outcome := { o with log := entries ++ o.log }

end Outcome

namespace Catalog

def requireEntity (c : Catalog) (scope name : String) : Except Failure Entity := do
  match ← c.tables.entity? scope name with
  | some e => .ok e
  | none => .error (.rejected (.entityNotFound scope name))

def cachedEntry (key : EntityKey) : LogEntry :=
  .debug "entityctl.domain.validation" s!"Cached validator for {key.scope}:{key.name}"

def forgottenEntry (key : EntityKey) : LogEntry :=
  .debug "entityctl.domain.validation" s!"Invalidated validator for {key.scope}:{key.name}"

-- Makes the validators of all entities anew; those made before a failure are kept.
def warm (c : Catalog) : Catalog × Except Failure Nat × List LogEntry :=
  match c.tables.allEntities with
  | .error f => (c, .error f, [])
  | .ok entities =>
    let (validators, r) := ValidatorCache.empty.warm entities
    let made := (entities.take validators.size).map fun e => cachedEntry ⟨e.scope, e.name⟩
    ({ c with validators }, r, made ++ match r with
      | .ok n => [.debug "entityctl.infrastructure.store" s!"Warmed {n} validators"]
      | .error _ => [])

def cool (c : Catalog) : Catalog := { c with validators := .empty }

def opened (tables : Tables) (limits : PageLimits) : Except Failure (Catalog × List LogEntry) :=
  match ({ tables, limits } : Catalog).warm with
  | (_, .error f, _) => .error f
  | (c, .ok _, log) => .ok (c, log)

end Catalog

end EntityCatalog
