import EntityCatalog.Catalog.Request
import EntityCatalog.Command.FieldText
import EntityCatalog.Command.Verbs
import EntityCatalog.Log.Line
import EntityCatalog.Reply.Screen
import EntityCatalog.Settings.Sources

namespace EntityCatalog.Command

structure World where
  files : FileTree
  environment : Environment := []
deriving Repr

inductive Crash where
  | settings (fault : SettingsFault)
  | catalog (failure : Failure)
  | tooManyDigits
deriving Repr

def Crash.message : Crash → String
  | .settings f => f.message
  | .catalog f => f.message
  | .tooManyDigits => Json.Expectation.shorterInteger.message

structure Ending where
  code : Nat := 0
  out : String := ""
  err : String := ""
  crash? : Option Crash := none
deriving Repr

namespace Ending

def shown (text : String) : Ending := { out := text ++ "\n" }

def crashed (c : Crash) : Ending := { code := 1, crash? := some c }

def declined : Ending := { code := 1, err := "Aborted!\n" }

def said (out err : String) (e : Ending) : Ending := { e with out := out ++ e.out, err := err ++ e.err }

end Ending

namespace Usage

def misused (u : Usage) (f : Fault) : Ending :=
  if f = .tooManyDigits then .crashed .tooManyDigits
  else
    let reminder := if f.isBare then ""
      else s!"{u.line}\nTry '{u.path} --help' for help.\n\n"
    { code := 2, err := s!"{reminder}Error: {f.message}\n" }

def showing (u : Usage) : Page → Ending
  | .help => .shown u.page
  | .examples => .shown u.examplesPage
  | .version => .shown s!"{programName}, version {programVersion}"

def words (u : Usage) (files : FileTree) (args : List String) : Except Ending Words :=
  if args.isEmpty && u.isGroup && !u.standsAlone then .error { code := 2, err := u.page ++ "\n" }
  else
    match Words.read u args {} with
    | .error f => .error (u.misused f)
    | .ok w =>
      match w.page? u with
      | some p => .error (u.showing p)
      | none =>
        match w.check files u with
        | .error f => .error (u.misused f)
        | .ok () => .ok w

-- The command that the words of a group name, and the words that are left to it. A word that looks
-- like an option is read as one before it is told to be no command.
def command {α : Type} (u : Usage) (files : FileTree) (known : List (String × α)) (w : Words) :
    Except Ending (α × List String) :=
  match w.arguments with
  | [] => .error (u.misused .noCommand)
  | name :: rest =>
    match known.lookup name with
    | some a => .ok (a, rest)
    | none =>
      let unknown : Ending :=
        u.misused (.unknownCommand name (Similar.suggest name (known.map (·.1))))
      if Words.isOption name then
        match u.words files w.arguments with
        | .error e => .error e
        | .ok _ => .error unknown
      else .error unknown

end Usage

structure Job where
  settings : Settings
  usage : Usage
  task : Task
deriving Repr

def loadSettings (world : World) (w : Words) : Except Ending Settings :=
  match Settings.load world.files world.environment (w.value? "--config") none
      (givenSettings w) with
  | .ok s => .ok s
  | .error f =>
    match f with
    | .badFile .. => .error { code := 1, err := s!"Error: {f.message}\n" }
    | f => .error (.crashed (.settings f))

def prepare (world : World) (args : List String) : Except Ending Job := do
  let w ← program.words world.files args
  if w.arguments.isEmpty then
    let _ ← loadSettings world w
    .error (.shown program.page)
  else
    let (group, rest) ← program.command world.files (groups.map fun g => (g.name, g)) w
    let settings ← loadSettings world w
    let w ← group.usage.words world.files rest
    let (verb, rest) ←
      group.usage.command world.files (group.verbs.map fun v => (v.name, v)) w
    let w ← verb.usage.words world.files rest
    .ok { settings, usage := verb.usage, task := verb.task w }

namespace Job

def question? (j : Job) : Option String :=
  match j.task with
  | .deleteEntity name false => some s!"Delete entity '{name}' and all of its records? [y/N]: "
  | _ => none

def fileText (files : FileTree) (file : Option String) : Option String :=
  file.map fun f => (files.text? (.ofText f)).getD ""

def request (j : Job) (files : FileTree) : Except Fault Request :=
  let scope := j.settings.scope
  let sources (vs : List Value) : List Field.Source := vs.map .document
  match j.task with
  | .defineEntity name typed file => do
    let fields ← readFields (fileText files file) typed
    .ok (.define scope name (sources fields))
  | .listEntities => .ok (.entities scope)
  | .showEntity name => .ok (.entity scope name)
  | .updateEntity name typed file => do
    let fields ← readFields (fileText files file) typed
    if fields.isEmpty then .error .noFields else .ok (.redefine scope name (sources fields))
  | .deleteEntity name _ => .ok (.drop scope name)
  | .createRecord entity data file => do
    .ok (.create scope entity (← readPayload data (fileText files file)))
  | .getRecord entity id => .ok (.get scope entity id)
  | .listRecords entity asked => .ok (.list scope entity asked)
  | .updateRecord entity id data file => do
    .ok (.update scope entity id (← readPayload data (fileText files file)))
  | .deleteRecord entity id => .ok (.delete scope entity id)

-- Whether the store is opened before the payload is read.
def opensFirst (j : Job) : Bool :=
  match j.task with
  | .createRecord .. => true
  | _ => false

def logSettings (j : Job) : LogSettings :=
  { verbose := j.settings.verbose, json := j.settings.logJson, echo := j.settings.store.echo
    scope := some j.settings.scope }

def logText (j : Job) (time : String) (log : List LogEntry) : String :=
  String.join ((j.logSettings.lines time log).map (· ++ "\n"))

def display (j : Job) : Reply.Display :=
  { json := j.settings.json, brief := j.settings.quiet, detailed := j.settings.verbose }

def tell (j : Job) (r : Reply) : Ending :=
  let text := r.text j.display ++ "\n"
  if r.ok then
    let warnings := if j.settings.json then [] else r.warnings
    { out := text, err := String.join (warnings.map fun w => s!"WARNING: {w}\n") }
  else { code := 1, err := text }

end Job

-- A job that was done: the ending, what became of the catalog, and what was taken of the world.
structure Done where
  ending : Ending
  outcome? : Option Outcome := none
  readings : Nat

namespace Job

def answer (j : Job) (r : Request) (c : Catalog) (g : Grant) (timer : Timer) (readings : Nat)
    (time : String) : Done :=
  let tracing := if j.settings.verbose then some timer else none
  let (o, readings) := r.answer tracing readings c g
  let ending := match o.answer with
    | .ok reply => j.tell reply
    | .error f => .crashed (.catalog f)
  { ending := ending.said "" (j.logText time o.log), outcome? := some o, readings }

def run (j : Job) (files : FileTree) (tables : Tables) (g : Grant) (timer : Timer)
    (readings : Nat) (time : String) : Done :=
  match j.request files, j.opensFirst with
  | .error f, false => { ending := j.usage.misused f, readings }
  | r, _ =>
    let (c, warmed, log) := ({ tables, limits := j.settings.limits } : Catalog).warm
    let before := j.logText time log
    match warmed, r with
    | .error f, _ => { ending := (Ending.crashed (.catalog f)).said "" before, readings }
    | .ok _, .error f => { ending := (j.usage.misused f).said "" before, readings }
    | .ok _, .ok r =>
      let done := j.answer r c g timer readings time
      { done with ending := done.ending.said "" before }

end Job

end EntityCatalog.Command
