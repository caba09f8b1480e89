import EntityCatalog.Error
import EntityCatalog.Telemetry.Tracer

namespace EntityCatalog

structure Telemetry where
  -- Times are told only if there is a timer.
  timer? : Option Timer := none
  tracer : Tracer := {}

namespace Telemetry

def current? (t : Telemetry) : Option Span :=
  if t.timer?.isSome then t.tracer.current? else none

def enter (t : Telemetry) (name : String) : Telemetry := { t with tracer := t.tracer.enter name }

def note (t : Telemetry) (key : String) (value : Value) : Telemetry :=
  { t with tracer := t.tracer.note key value }

def leave (t : Telemetry) : Telemetry := { t with tracer := t.tracer.leave }

-- A span that has none around it, whatever spans are open; these are put aside until it has ended.
def enterRoot (t : Telemetry) (name : String) : Telemetry :=
  { t with tracer := { t.tracer with running := [] }.enter name }

def leaveRoot (t : Telemetry) (aside : List Span) : Telemetry :=
  { t with tracer := { t.tracer.leave with running := aside } }

end Telemetry

-- Work that may fail, and that can be traced.
abbrev Trace (α : Type) := ExceptT Failure (StateM Telemetry) α

namespace Trace

variable {α : Type}

def current? : Trace (Option Span) := return (← get).current?

def note (key : String) (value : Value) : Trace Unit := modify (·.note key value)

-- Does work, which is told whether there is a new span for it. There is one only inside of another
-- one, and it ends also if the work fails.
def span (name : String) (work : Bool → Trace α) : Trace α := do
  match ← current? with
  | none => work false
  | some _ =>
    modify (·.enter name)
    try work true
    finally modify (·.leave)

end Trace

end EntityCatalog
