import EntityCatalog.Value

namespace EntityCatalog

inductive Severity where
  | debug
  | info
  | warning
  | error
  | critical
deriving DecidableEq, Repr

namespace Severity

def name : Severity → String
  | debug => "debug"
  | info => "info"
  | warning => "warning"
  | error => "error"
  | critical => "critical"

def rank : Severity → Nat
  | debug => 10
  | info => 20
  | warning => 30
  | error => 40
  | critical => 50

def ofName? (s : String) : Option Severity :=
  [debug, info, warning, error, critical].find? (·.name == s)

end Severity

structure LogEntry where
  -- The part of the program, as a path of names with points between them.
  logger : String
  severity : Severity
  event : String
  values : Document := []
deriving Repr

namespace LogEntry

def debug (logger event : String) : LogEntry := ⟨logger, .debug, event, []⟩

def info (logger event : String) : LogEntry := ⟨logger, .info, event, []⟩

end LogEntry

end EntityCatalog
