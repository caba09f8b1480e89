import EntityCatalog.Telemetry.Span

namespace EntityCatalog

inductive Act where
  | note (key : String) (value : Value)
  | span (name : String) (work : List Act)
  | attempt (work : List Act)
  | fail
deriving Repr, Inhabited

structure Tracer where
  readings : Nat := 0
  -- The innermost span first.
  running : List Span := []
  finished : List Span := []
deriving Repr

structure Sighting where
  name : String
  opened : Bool
  current : Bool
deriving DecidableEq, Repr

namespace Tracer

def current? (t : Tracer) : Option Span := t.running.head?

def enter (t : Tracer) (name : String) : Tracer :=
  { t with readings := t.readings + 1
           running := { name, start := t.readings + 1 } :: t.running }

def note (t : Tracer) (key : String) (value : Value) : Tracer :=
  match t.running with
  | [] => t
  | s :: ss => { t with running := { s with notes := Document.set s.notes key value } :: ss }

def leave (t : Tracer) : Tracer :=
  match t.running with
  | [] => t
  | s :: ss =>
    let s := { s with stop := some (t.readings + 1) }
    match ss with
    | [] => { readings := t.readings + 1, running := [], finished := t.finished ++ [s] }
    | p :: ps =>
      { t with readings := t.readings + 1
               running := { p with children := p.children ++ [s] } :: ps }

def isCurrent (t : Tracer) (s : Option Span) : Bool := t.current?.map (·.start) == s.map (·.start)

end Tracer

structure Traced where
  tracer : Tracer
  failed : Bool := false
  seen : List Sighting := []

mutual

-- Does one act. A span is closed also if the work inside of it fails.
def Act.run (t : Tracer) : Act → Traced
  | .note key value => { tracer := t.note key value }
  | .fail => { tracer := t, failed := true }
  | .attempt work => { Act.runAll t work with failed := false }
  | .span name work =>
    let opens := t.current?.isSome
    let t' := if opens then t.enter name else t
    let span := if opens then t'.current? else none
    let r := Act.runAll t' work
    { tracer := if opens then r.tracer.leave else r.tracer
      failed := r.failed
      seen := ⟨name, opens, t'.isCurrent span⟩ :: r.seen }

def Act.runAll (t : Tracer) : List Act → Traced
  | [] => { tracer := t }
  | a :: as =>
    let r := Act.run t a
    if r.failed then r
    else
      let r' := Act.runAll r.tracer as
      { r' with seen := r.seen ++ r'.seen }

end

-- Does acts inside of a span that has none around it. Spans that are open already stay aside until
-- it has ended.
def Tracer.runRoot (t : Tracer) (name : String) (acts : List Act) : Traced :=
  let r := Act.runAll ({ t with running := [] }.enter name) acts
  { r with tracer := { r.tracer.leave with running := t.running } }

end EntityCatalog
