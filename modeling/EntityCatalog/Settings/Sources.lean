import EntityCatalog.Files.Tree
import EntityCatalog.Json.Reader
import EntityCatalog.Settings.Reader
import EntityCatalog.Text.Case
import EntityCatalog.Toml.Reader

namespace EntityCatalog

mutual

-- The higher value, which hides the lower one; objects are laid over each other member by member.
def Value.over (lower : Value) : Value → Value
  | .object ms =>
    match lower with
    | .object bs => .object (Value.membersOver bs ms)
    | _ => .object ms
  | v => v

def Value.membersOver (lower : Document) : List (String × Value) → Document
  | [] => lower
  | (k, v) :: ms =>
    Value.membersOver
      (lower.set k (match lower.get? k with
        | some w => Value.over w v
        | none => v)) ms

end

def Document.over (higher lower : Document) : Document := Value.membersOver lower higher

abbrev Environment := List (String × String)

namespace Environment

def configVariable : String := "ENTITYCTL_CONFIG"

def names : List String :=
  configVariable :: ["JSON_OUTPUT", "QUIET", "VERBOSE", "LOG_JSON", "DEFAULT_SCOPE", "STORE",
    "STORE__PATH", "STORE__ECHO", "QUERY", "QUERY__DEFAULT_LIMIT", "QUERY__MAX_LIMIT"].map
    ("ENTITYCTL_" ++ ·)

def folded (env : Environment) : List (String × String) :=
  env.foldl (fun out (name, value) =>
    let name := name.lowered
    if out.any (·.1 == name) then out.map fun v => if v.1 == name then (name, value) else v
    else out ++ [(name, value)]) []

-- Sets a value inside of a document; documents are made where there are none, and other values are
-- not replaced by documents.
def setAt : List String → Value → Document → Document
  | [], _, d => d
  | [name], v, d => d.set name v
  | name :: names, v, d =>
    match d.get? name with
    | none => d.set name (.object (setAt names v []))
    | some (.object m) => d.set name (.object (setAt names v m))
    | some _ => d

def nameParts : List Char → List (List Char)
  | '_' :: '_' :: cs => [] :: nameParts cs
  | c :: cs =>
    match nameParts cs with
    | w :: ws => (c :: w) :: ws
    | [] => [[c]]
  | [] => [[]]

def membersOf (vars : List (String × String)) (name : String) : Document :=
  vars.foldl (fun d (key, value) =>
    match Text.after? s!"entityctl_{name}__".toList key.toList with
    | some rest => setAt ((nameParts rest).map String.ofList) (.text value) d
    | none => d) []

def withDeclaredNames (declared : List String) (d : Document) : Document :=
  d.foldl (fun out (name, v) =>
    Document.set out ((declared.find? (·.lowered = name.lowered)).getD name) v) []

def section? (vars : List (String × String)) (name : String) (declared : List String) :
    Except SettingsFault (Option Value) :=
  let members := membersOf vars name
  match vars.lookup ("entityctl_" ++ name) with
  | none =>
    .ok (if members.isEmpty then none else some (.object (withDeclaredNames declared members)))
  | some s =>
    match Json.read s with
    | .error _ => .error .badVariable
    | .ok .null => .ok none
    | .ok (.object d) =>
      .ok (some (.object (withDeclaredNames declared (Document.over members d))))
    | .ok v => .ok (some v)

def named (vars : List (String × String)) (name : String) : Document :=
  match vars.lookup ("entityctl_" ++ name) with
  | some s => [(name, .text s)]
  | none => []

def settings (env : Environment) : Except SettingsFault Document := do
  let vars := env.folded
  let store ← section? vars "store" ["path", "echo"]
  let query ← section? vars "query" ["default_limit", "max_limit"]
  let member (name : String) (v : Option Value) : Document := (v.map fun v => (name, v)).toList
  .ok (["json_output", "quiet", "verbose", "log_json", "default_scope"].flatMap (named vars) ++
    member "store" store ++ member "query" query)

end Environment

namespace FileTree

def configName : Path := ⟨"", ["entityctl.toml"]⟩

def configPlaces (here : Path) : List Path := (here :: here.ancestors).map (·.join configName)

def config? (t : FileTree) (env : Environment) (start : Option Path) : Option Path :=
  match (env.lookup Environment.configVariable).filter (· ≠ "") with
  | some s =>
    let p := Path.ofText s
    if t.isFile p then some p else none
  | none =>
    (configPlaces (Path.resolve t.current (start.getD t.current))).find? t.isFile

def configSettings (t : FileTree) (path : Option Path) : Except SettingsFault Document :=
  match path.bind fun p => (t.text? p).map fun s => (p, s) with
  | none => .ok []
  | some (p, s) =>
    match Toml.read s with
    | .ok d => .ok d
    | .error f =>
      if f.complaint = .tooManyDigits then .error .tooManyDigits
      else .error (.badFile p (f.message s.toList))

end FileTree

namespace Settings

def load (t : FileTree) (env : Environment) (config : Option String) (root : Option Path)
    (given : Document) : Except SettingsFault Settings := do
  let configPath := match config.filter (· ≠ "") with
    | some s =>
      let p := Path.ofText s
      if t.isFile p then some p else none
    | none => t.config? env root
  let projectRoot := root.getD ((configPath.map Path.parent).getD t.current)
  let file ← t.configSettings configPath
  let set ← env.settings
  read projectRoot configPath ((given.over set).over file)

end Settings

end EntityCatalog
