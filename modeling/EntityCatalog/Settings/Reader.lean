import EntityCatalog.Settings.Basic

namespace EntityCatalog

namespace Reads

def path : Reads Path
  | .text s => .ok (.ofText s)
  | _ => .error .notPath

def atLeast (least : Int) : Reads Int := fun v => do
  let n ← integer v
  if n < least then .error (.lessThan least) else .ok n

end Reads

-- What was read, and the problems that came up. With problems, the value counts for nothing.
structure Checked (α : Type) where
  value : α
  problems : List SettingsProblem := []

namespace Checked

def member {α : Type} (d : Document) (name : String) (read : Reads α) (usual : α) : Checked α :=
  match d.get? name with
  | none => { value := usual }
  | some v =>
    match read v with
    | .ok a => { value := a }
    | .error e => { value := usual, problems := [⟨[name], e⟩] }

def inside {α : Type} (d : Document) (name model : String) (read : Document → Checked α)
    (usual : α) : Checked α :=
  match d.get? name with
  | none => { value := usual }
  | some (.object m) =>
    let c := read m
    { c with problems := c.problems.map fun p => { p with place := name :: p.place } }
  | some _ => { value := usual, problems := [⟨[name], .notObject model⟩] }

end Checked

def StoreSettings.read (d : Document) : Checked StoreSettings :=
  let usual : StoreSettings := {}
  let path := Checked.member d "path" Reads.path usual.path
  let echo := Checked.member d "echo" Reads.bool usual.echo
  ⟨⟨path.value, echo.value⟩, path.problems ++ echo.problems⟩

def PageLimits.read (d : Document) : Checked PageLimits :=
  let standard : PageLimits := {}
  let usual := Checked.member d "default_limit" (Reads.atLeast 1) standard.usual
  let largest := Checked.member d "max_limit" (Reads.atLeast 1) standard.largest
  let problems := usual.problems ++ largest.problems
  let crossed : Misread :=
    .senseless s!"default_limit ({usual.value}) exceeds max_limit ({largest.value})"
  ⟨⟨usual.value, largest.value⟩,
    if problems.isEmpty && largest.value < usual.value then [⟨[], crossed⟩] else problems⟩

namespace Settings

def names : List String :=
  ["project_root", "config_path", "json_output", "quiet", "verbose", "log_json", "default_scope",
   "store", "query"]

def read (projectRoot : Path) (configPath : Option Path) (d : Document) :
    Except SettingsFault Settings :=
  let flag (name : String) := Checked.member d name Reads.bool false
  let json := flag "json_output"
  let quiet := flag "quiet"
  let verbose := flag "verbose"
  let logJson := flag "log_json"
  let scope := Checked.member d "default_scope" Reads.text "default"
  let store := Checked.inside d "store" "StoreConfig" StoreSettings.read {}
  let limits := Checked.inside d "query" "QueryConfig" PageLimits.read {}
  let undeclared := (d.keys.filter (!names.contains ·)).map fun k =>
    ({ place := [k], misread := .undeclared } : SettingsProblem)
  let problems := json.problems ++ quiet.problems ++ verbose.problems ++ logJson.problems ++
    scope.problems ++ store.problems ++ limits.problems ++ undeclared
  if problems.isEmpty then
    .ok { projectRoot, configPath, json := json.value, quiet := quiet.value,
          verbose := verbose.value, logJson := logJson.value, scope := scope.value,
          store := store.value, limits := limits.value }
  else .error (.invalid problems)

end Settings

end EntityCatalog
