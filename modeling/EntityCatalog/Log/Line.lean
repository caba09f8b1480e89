import EntityCatalog.Json.Writer
import EntityCatalog.Log.Entry
import EntityCatalog.Value.Display
import EntityCatalog.Value.Plain

namespace EntityCatalog

structure LogSettings where
  verbose : Bool := false
  json : Bool := false
  echo : Bool := false
  scope : Option String := none
deriving DecidableEq, Repr

namespace LogEntry

def isInside (part logger : String) : Bool :=
  logger = part || (part ++ ".").toList.isPrefixOf logger.toList

-- All that is told of an entry. The scope does not hide a value of that name.
def toDocument (scope : Option String) (time : String) (e : LogEntry) : Document :=
  let d := Document.set e.values "event" (.text e.event)
  let d := match scope with
    | some s => if d.has "scope" then d else d.set "scope" (.text s)
    | none => d
  ((d.set "level" (.text e.severity.name)).set "logger" (.text e.logger)).set "timestamp"
    (.text time)

def isDividing (c : Char) : Bool := [' ', '\t', '=', '\r', '\n', '"', '\''].contains c

def valueText : Value → String
  | .text s => if s.toList.any isDividing then s.inQuotes else s
  | v => v.inner

def padTo (n : Nat) (s : String) : String := s ++ String.ofList (List.replicate (n - s.length) ' ')

def placed : List String := ["timestamp", "level", "event", "logger"]

def valuesText (d : Document) : List String :=
  let rest := d.filter fun m => !placed.contains m.1
  (rest.mergeSort fun a b => decide (a.1 ≤ b.1)).map fun (k, v) => k ++ "=" ++ valueText v

def plainLine (scope : Option String) (time : String) (e : LogEntry) : String :=
  let columns := [time, "[" ++ padTo 9 e.severity.name ++ "]", padTo 30 e.event,
    "[" ++ e.logger ++ "]"] ++ valuesText (e.toDocument scope time)
  let line := (" ".intercalate columns).toList
  String.ofList (line.reverse.dropWhile (· == ' ')).reverse

-- An entry for programs, as JSON; dates and moments are told by their fields.
def jsonLine (scope : Option String) (time : String) (e : LogEntry) : String :=
  let told := (Value.object (e.toDocument scope time)).withTexts Date.fieldsText Moment.fieldsText
  told.toJson .stored

end LogEntry

namespace LogSettings

def threshold (s : LogSettings) (logger : String) : Severity :=
  if LogEntry.isInside "entityctl" logger then (if s.verbose then .debug else .warning)
  else if LogEntry.isInside "sqlalchemy.engine" logger then (if s.echo then .info else .warning)
  else .warning

def shows (s : LogSettings) (e : LogEntry) : Bool :=
  (s.threshold e.logger).rank ≤ e.severity.rank

def line (s : LogSettings) (time : String) (e : LogEntry) : String :=
  if s.json then e.jsonLine s.scope time else e.plainLine s.scope time

def lines (s : LogSettings) (time : String) (es : List LogEntry) : List String :=
  (es.filter s.shows).map (s.line time)

end LogSettings

end EntityCatalog
