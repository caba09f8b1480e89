import Std.Time.DateTime.Timestamp
import EntityCatalog.Command.Job
import EntityCatalog.Command.Question
import EntityCatalog.Store.File

namespace EntityCatalog.Program

open Command

def lookAt (current p : Path) : IO FileTree := do
  let place := current.resolve p
  let above := p.ancestors.map current.resolve
  try
    return { current, texts := [(place, ← IO.FS.readFile p.text)], folders := above }
  catch _ =>
    try
      let isFolder ← (← IO.FS.realPath p.text).isDir
      return { current, folders := if isFolder then place :: above else [] }
    catch _ => return { current }

-- The values of options may be files, also those that stand behind an equals sign.
def namesIn (word : String) : List String :=
  match Text.cutAt '=' word.toList with
  | some (_, value) => [word, String.ofList value]
  | none => [word]

def lookAround (args : List String) : IO World := do
  let current := Path.ofText (← IO.currentDir).toString
  let environment ← Environment.names.filterMapM fun name => do
    return (← IO.getEnv name).map fun value => (name, value)
  let named := (args.flatMap namesIn ++ environment.map (·.2)).filter (· ≠ "")
  let trees ← (FileTree.configPlaces current ++ named.map Path.ofText).mapM (lookAt current)
  return {
    files := { current, texts := trees.flatMap (·.texts), folders := trees.flatMap (·.folders) }
    environment }

def unixEpoch : Int := 719163 * microsPerDay

def timeNow : IO Moment := do
  let time ← Std.Time.Timestamp.now
  let micros := unixEpoch + time.toNanosecondsSinceUnixEpoch.val / 1000
  match Moment.ofReading? micros with
  | some m => return m
  | none => throw (IO.userError "The clock is out of range")

def newDigits : IO String := do
  let bytes ← IO.getRandomBytes 8
  return String.ofList (bytes.toList.flatMap fun b => Text.hexDigits 2 b.toNat)

def readTables (p : Path) : IO Tables := do
  let text? ← try some <$> IO.FS.readFile p.text catch _ => pure none
  match text? with
  | none => return {}
  | some text =>
    match Tables.ofText? text with
    | some t => return t
    | none => throw (IO.userError s!"No store is kept in {p.text}")

def writeTables (p : Path) (t : Tables) : IO Unit := do
  IO.FS.createDirAll p.parent.text
  IO.FS.writeFile p.text t.text

def tell (e : Ending) : IO UInt32 := do
  IO.print e.out
  IO.eprint e.err
  match e.crash? with
  | some c => IO.eprintln s!"Error: {c.message}"
  | none => pure ()
  return e.code.toUInt32

partial def agreed (question : String) : IO Bool := do
  IO.print question
  (← IO.getStdout).flush
  let line ← (← IO.getStdin).getLine
  if line.isEmpty then return false
  match Question.answer? line with
  | some b => return b
  | none =>
    IO.print Question.invalid
    agreed question

-- Does a job. Its spans share the time that it takes by their readings of the timer.
def doJob (j : Job) (files : FileTree) : IO Ending := do
  let path := files.current.resolve j.settings.storePath
  let tables ← readTables path
  let grant : Grant := { digits := ← newDigits, now := ← timeNow }
  let time := String.ofList (grant.now.fullText ++ ['Z'])
  let start ← IO.monoNanosNow
  let untimed := j.run files tables grant (fun _ => 0) 0 time
  match untimed.outcome? with
  | some o => writeTables path o.catalog.tables
  | none => pure ()
  let taken := ((← IO.monoNanosNow) - start) * 1024 / 1000000000
  let timer : Timer := fun k => (taken * k / max 1 untimed.readings : Nat)
  return (j.run files tables grant timer 0 time).ending

def run (args : List String) : IO UInt32 := do
  let world ← lookAround args
  match prepare world args with
  | .error e => tell e
  | .ok j =>
    match j.question? with
    | none => tell (← doJob j world.files)
    | some q =>
      if ← agreed q then tell (← doJob j world.files) else tell .declined

end EntityCatalog.Program

def main (args : List String) : IO UInt32 := EntityCatalog.Program.run args
